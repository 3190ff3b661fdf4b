import TapeDuel.Proofs.HallMoves
import TapeDuel.Proofs.ReplayedGames

/-!
# Games that were played to their end

A game that is told to stop has no result. So a game that has one is the game that
would have been played if nobody had been asked at all, answer for answer: the
inquiries are counted the same, and every one was answered with going on
(`Game.play_never`).

A tournament enters nothing on its score sheet but such results. However its games
are scheduled, whether one of them fails, and whatever becomes of the reports: a game
on the sheet is the game of two of the entries (`Hall.Genuine`), and there is none
if two entries have the same name.
-/

namespace TapeDuel

/-! ## Without being stopped -/

namespace Round

theorem proceed_never {interrupts : Interrupts} {fuel : Nat} {arena : Arena}
    {done asked asked' : Nat} {verdict : Verdict} {steps : Nat}
    (h : proceed interrupts fuel arena done asked = (.finished verdict steps, asked')) :
    proceed .never fuel arena done asked = (.finished verdict steps, asked') := by
  induction fuel generalizing arena done asked with
  | zero => cases h
  | succ fuel ih =>
      rw [proceed] at h ⊢
      dsimp only at h ⊢
      cases hstep : arena.step with
      | error fault =>
          rw [hstep] at h
          cases h
      | ok next =>
          rw [hstep] at h
          dsimp only at h ⊢
          by_cases hover : next.verdict.isFinished = true
          · rwa [if_pos hover] at h ⊢
          · rw [if_neg hover] at h ⊢
            by_cases hask : (done + 1) % checkInterval = 0
            · rw [if_pos hask] at h ⊢
              -- This inquiry was answered with going on, and it is counted either way.
              split at h
              · cases h
              · exact ih h
            · rw [if_neg hask] at h ⊢
              exact ih h

theorem play_never {interrupts : Interrupts} {asked asked' : Nat} {a b : Program}
    {params : RoundParams} {verdict : Verdict} {steps : Nat}
    (h : play interrupts asked a b params = .ok (.finished verdict steps, asked')) :
    play .never asked a b params = .ok (.finished verdict steps, asked') := by
  rw [play] at h ⊢
  split at h
  · cases h
  · cases h
  · exact congrArg Except.ok (proceed_never (Except.ok.inj h))

end Round

namespace Game

variable {interrupts : Interrupts} {a b : Program}

theorem playRound_never {params : RoundParams} {s s' : GameState}
    (h : playRound interrupts a b params s = (.ok (), s')) :
    playRound .never a b params s = (.ok (), s') := by
  rw [playRound] at h ⊢
  rw [if_neg (by simp [Interrupts.never])]
  split at h
  · cases h
  · split at h
    · cases h
    · cases h
    · cases h
    · next hplay => rwa [Round.play_never hplay]

theorem run_task_never {params : List RoundParams} {s s' : GameState}
    (h : (task interrupts a b params).run s = (.ok (), s')) :
    (task .never a b params).run s = (.ok (), s') := by
  induction params generalizing s with
  | nil => rwa [run_task_nil] at h ⊢
  | cons p params ih =>
      rw [run_task_cons] at h ⊢
      rcases hround : playRound interrupts a b p s with ⟨failure | ⟨⟩, t⟩ <;>
        rw [hround] at h
      · cases h
      · rw [playRound_never hround]
        exact ih h

/-- A game that has a result was not stopped. -/
theorem play_never {rounds : Rounds} {result : GameResult}
    (h : play interrupts a b rounds = .ok result) :
    play .never a b rounds = .ok result := by
  obtain ⟨s, hrun, rfl⟩ := run_task_of_play h
  rw [play, flaw?_of_play h, run_task_never hrun]

end Game

namespace Tournament

variable {rounds : Rounds} {report : Report}

/-! ## On the score sheet -/

namespace Hall

variable {entries : Array Entry} {h h' : Hall} {event : Event}

/-- What was played in the hall, and what was entered on the sheet, are games of the
entries. -/
structure Genuine (entries : Array Entry) (rounds : Rounds) (h : Hall) : Prop where
  played : ∀ seat ∈ h.seats, ∀ result, seat.stage = .played result →
    ∃ game, record? entries rounds seat.pairing = some game ∧ game.result = result
  reported : ∀ game ∈ h.sheet.reported,
    ∃ pairing, record? entries rounds pairing = some game

theorem genuine_opening (entries : List Entry) (parallelism : Int) :
    (opening entries parallelism).Genuine entries.toArray rounds where
  played _ hmem := absurd hmem List.not_mem_nil
  reported _ hmem := absurd hmem List.not_mem_nil

theorem Genuine.step (hg : h.Genuine entries rounds)
    (hm : h.Moves entries rounds report event h') : h'.Genuine entries rounds := by
  have hplayed := hg.played
  cases hm with
  | launch =>
      refine ⟨?_, hg.reported⟩
      rw [List.forall_mem_append, List.forall_mem_singleton]
      exact ⟨hplayed, nofun⟩
  | skip => exact ⟨hplayed, hg.reported⟩
  | @play _ _ _ _ a b _ result hseats ha hb _ hplay =>
      rw [hseats, forall_seats] at hplayed
      refine ⟨forall_seats.mpr ⟨hplayed.1, ?_, hplayed.2.2⟩, hg.reported⟩
      rintro _ ⟨⟩
      exact ⟨⟨a.name, b.name, result⟩, record?_eq_some_iff.mpr
        ⟨a, b, result, ha, hb, Game.play_never hplay, rfl⟩, rfl⟩
  | fail hseats | raise hseats | unlock hseats | giveUp hseats =>
      rw [hseats, forall_seats] at hplayed
      exact ⟨forall_seats.mpr ⟨hplayed.1, nofun, hplayed.2.2⟩, hg.reported⟩
  | enter hseats ha hb =>
      rw [hseats, forall_seats] at hplayed
      obtain ⟨game, hgame, rfl⟩ := hplayed.2.1 _ rfl
      obtain ⟨result, -, rfl⟩ := play_of_record? hgame ha hb
      exact ⟨forall_seats.mpr ⟨hplayed.1, nofun, hplayed.2.2⟩,
        List.forall_mem_cons.mpr ⟨⟨_, hgame⟩, hg.reported⟩⟩
  | leave hseats =>
      rw [hseats, forall_seats] at hplayed
      exact ⟨List.forall_mem_append.mpr ⟨hplayed.1, hplayed.2.2⟩, hg.reported⟩

theorem Genuine.run {events : List Event} (hg : h.Genuine entries rounds)
    (hrun : h.run entries rounds report events = some h') : h'.Genuine entries rounds :=
  run_keeps (fun _ _ _ hg hm => hg.step hm) hg hrun

end Hall

/-! ## Whole tournaments -/

variable {entries : List Entry} {parallelism : Int} {game : GameRecord}

theorem nodup_of_duplicated?_eq_none (h : duplicated? entries = none) :
    (entries.map Entry.name).Nodup := by
  induction entries with
  | nil => exact List.nodup_nil
  | cons e rest ih =>
      rw [duplicated?] at h
      split at h
      · cases h
      · next hother =>
          refine List.nodup_cons.mpr ⟨fun hmem => hother ?_, ih h⟩
          obtain ⟨other, hmem, hname⟩ := List.mem_map.mp hmem
          exact List.any_eq_true.mpr ⟨other, hmem, beq_iff_eq.mpr hname⟩

/-- A tournament is over before its first game, or somebody has left its hall last. -/
theorem scheduled_cases {events : List Event} {outcome : Outcome}
    (h : scheduled parallelism entries rounds report events = some outcome) :
    (∃ failure, outcome = ⟨[], .error failure⟩) ∨
    (entries.map Entry.name).Nodup ∧ ∃ hall,
      (Hall.opening entries parallelism).run entries.toArray rounds report events =
        some hall ∧
      hall.isOver = true ∧ outcome = hall.outcome := by
  rw [scheduled] at h
  split at h
  · cases h
    exact .inl ⟨_, rfl⟩
  · cases h
    exact .inl ⟨_, rfl⟩
  · next hnames _ =>
      split at h
      · next hall hrun =>
          split at h
          · next hover =>
              cases h
              exact .inr ⟨nodup_of_duplicated?_eq_none hnames, hall, hrun, hover, rfl⟩
          · cases h
      · cases h

theorem play_cases (canceled : Bool) (parallelism : Int) (entries : List Entry)
    (rounds : Rounds) (report : Report) :
    (∃ failure, play canceled parallelism entries rounds report = ⟨[], .error failure⟩) ∨
    (entries.map Entry.name).Nodup ∧ play canceled parallelism entries rounds report =
      playFrom entries.toArray rounds report (pairings entries.length)
      (State.start entries) := by
  rw [play]
  split
  · exact .inl ⟨_, rfl⟩
  · exact .inl ⟨_, rfl⟩
  · next hnames _ =>
      split
      · exact .inl ⟨_, rfl⟩
      · exact .inr ⟨nodup_of_duplicated?_eq_none hnames, rfl⟩

/-- The game was played to its end by two entries of a tournament. -/
structure IsPlayed (entries : List Entry) (rounds : Rounds) (game : GameRecord) :
    Prop where
  names : (entries.map Entry.name).Nodup
  exists_pairing : ∃ pairing, record? entries.toArray rounds pairing = some game

theorem isPlayed_of_scheduled {events : List Event} {outcome : Outcome}
    (h : scheduled parallelism entries rounds report events = some outcome)
    (hgame : game ∈ outcome.games) : IsPlayed entries rounds game := by
  obtain ⟨failure, rfl⟩ | ⟨hnames, hall, hrun, -, rfl⟩ := scheduled_cases h
  · cases hgame
  · have hgenuine := (Hall.genuine_opening entries parallelism).run hrun
    exact ⟨hnames, hgenuine.reported game (List.mem_reverse.mp hgame)⟩

theorem exists_pairing_of_playFrom {entries : Array Entry} {pairs : List (Nat × Nat)}
    {s : State}
    (hs : ∀ game ∈ s.reported, ∃ pairing, record? entries rounds pairing = some game)
    (hgame : game ∈ (playFrom entries rounds report pairs s).games) :
    ∃ pairing, record? entries rounds pairing = some game := by
  induction pairs generalizing s with
  | nil => exact hs game (List.mem_reverse.mp hgame)
  | cons pairing pairs ih =>
      obtain ⟨i, j⟩ := pairing
      rw [playFrom] at hgame
      split at hgame
      · next a b ha hb =>
          split at hgame
          · exact hs game (List.mem_reverse.mp hgame)
          · next result hplay =>
              have hs' : ∀ game ∈ (⟨a.name, b.name, result⟩ : GameRecord) :: s.reported,
                  ∃ pairing, record? entries rounds pairing = some game :=
                List.forall_mem_cons.mpr ⟨⟨(i, j), record?_eq_some_iff.mpr
                  ⟨a, b, result, ha, hb, hplay, rfl⟩⟩, hs⟩
              dsimp only at hgame
              split at hgame
              · exact hs' game (List.mem_reverse.mp hgame)
              · exact ih hs' hgame
      · exact ih hs hgame

theorem isPlayed_of_play {canceled : Bool}
    (hgame : game ∈ (play canceled parallelism entries rounds report).games) :
    IsPlayed entries rounds game := by
  obtain ⟨failure, hplay⟩ | ⟨hnames, hplay⟩ :=
    play_cases canceled parallelism entries rounds report
  · rw [hplay] at hgame
    cases hgame
  · rw [hplay] at hgame
    exact ⟨hnames, exists_pairing_of_playFrom
      (fun _ hmem => absurd hmem List.not_mem_nil) hgame⟩

end Tournament

end TapeDuel
