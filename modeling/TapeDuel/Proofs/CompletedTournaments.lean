import TapeDuel.Proofs.PlayedGames

/-!
# Tournaments that come through

Any program can take part in a tournament, and a game can fail, or its report. The
first failure stops the tournament, and it never goes on again. So a tournament that
has standings at its end has met with no failure on its way, although nothing was
known of its programs, and then all its games were played and entered
(`Outcome.Complete`).

For games that are played one after the other this is read off their list. For a hall
the accounts are kept until it is stopped: every pair waits to be launched, or has a
seat and waits for the sheet, or was entered (`Hall.Counted`). Not all of this holds
behind a failure, for then launches are left out.
-/

namespace TapeDuel.Tournament

/-- All pairs have played a game, the games were entered in some order, and the
standings are what the sheet then says. -/
structure Outcome.Complete (entries : List Entry) (rounds : Rounds) (outcome : Outcome) :
    Prop where
  names : (entries.map Entry.name).Nodup
  exists_pairs : ∃ pairs : List (Nat × Nat), pairs.Perm (pairings entries.length) ∧
    (∀ pairing ∈ pairs, ∃ game, record? entries.toArray rounds pairing = some game) ∧
    outcome = ⟨pairs.filterMap (record? entries.toArray rounds),
      .ok (sortStandings (pairs.foldl (State.enter entries.toArray rounds)
        (State.start entries)).standings.toList)⟩

/-! ## Game after game -/

section Play

variable {entries : List Entry} {rounds : Rounds} {report : Report}
  {standings : List Standing}

theorem record?_of_playFrom {pairs : List (Nat × Nat)} {s : State}
    (hpairs : ∀ pairing ∈ pairs, pairing ∈ pairings entries.length)
    (h : (playFrom entries.toArray rounds report pairs s).standings = .ok standings) :
    (∀ pairing ∈ pairs, ∃ game, record? entries.toArray rounds pairing = some game) ∧
      playFrom entries.toArray rounds report pairs s =
        playFrom entries.toArray rounds (fun _ _ => none) pairs s := by
  induction pairs generalizing s with
  | nil => exact ⟨nofun, rfl⟩
  | cons pairing pairs ih =>
      obtain ⟨i, j⟩ := pairing
      obtain ⟨hpairing, hpairs⟩ := List.forall_mem_cons.mp hpairs
      obtain ⟨hij, hj⟩ := mem_pairings.mp hpairing
      have hi : i < entries.length := Nat.lt_trans hij hj
      have ha : entries.toArray[i]? = some entries[i] := by simp [hi]
      have hb : entries.toArray[j]? = some entries[j] := by simp [hj]
      rw [playFrom, ha, hb] at h ⊢
      dsimp only at h ⊢
      cases hplay : Game.play .never entries[i].program entries[j].program rounds with
      | error failure =>
          rw [hplay] at h
          cases h
      | ok result =>
          rw [hplay] at h
          dsimp only at h
          split at h
          · cases h
          · next hreport =>
              obtain ⟨hrecords, hsame⟩ := ih hpairs h
              refine ⟨List.forall_mem_cons.mpr ⟨?_, hrecords⟩, ?_⟩
              · exact ⟨_, record?_eq_some_iff.mpr ⟨_, _, result, ha, hb, hplay, rfl⟩⟩
              · rw [playFrom, ha, hb]
                dsimp only
                rw [hplay]
                dsimp only
                rw [hreport]
                exact hsame

theorem complete_of_play {canceled : Bool} {parallelism : Int}
    (h : (play canceled parallelism entries rounds report).standings = .ok standings) :
    (play canceled parallelism entries rounds report).Complete entries rounds := by
  obtain ⟨failure, hplay⟩ | ⟨hnames, hplay⟩ :=
    play_cases canceled parallelism entries rounds report
  · rw [hplay] at h
    cases h
  · rw [hplay] at h ⊢
    obtain ⟨hrecords, hsame⟩ := record?_of_playFrom (fun _ hmem => hmem) h
    refine ⟨hnames, _, List.Perm.refl _, hrecords, ?_⟩
    rw [hsame, playFrom_eq (fun _ _ => rfl) hrecords, reported_foldl_enter, State.start,
      List.append_nil, List.reverse_reverse]

end Play

/-! ## Several games at a time -/

namespace Hall

variable {entries : List Entry} {rounds : Rounds} {report : Report} {h h' : Hall}
  {event : Event}

/-- As long as the hall is not stopped, no pair is lost, and the sheet has the games
of those that were entered. -/
def Counted (entries : List Entry) (rounds : Rounds) (h : Hall) : Prop :=
  h.stopped = none → ∃ pairs,
    (h.pending ++ waiting h.seats ++ pairs).Perm (pairings entries.length) ∧
    (∀ pairing ∈ pairs, ∃ game, record? entries.toArray rounds pairing = some game) ∧
    h.sheet = pairs.foldl (State.enter entries.toArray rounds) (State.start entries)

theorem counted_opening (entries : List Entry) (rounds : Rounds) (parallelism : Int) :
    (opening entries parallelism).Counted entries rounds := by
  intro _
  refine ⟨[], ?_, nofun, rfl⟩
  simp [opening, waiting]

theorem Counted.step (hc : h.Counted entries rounds)
    (hg : h.Genuine entries.toArray rounds)
    (hm : h.Moves entries.toArray rounds report event h') :
    h'.Counted entries rounds := by
  intro hgoing
  obtain ⟨pairs, hperm, hrecords, hsheet⟩ := hc (hm.going hgoing)
  obtain ⟨more, hperm', hmore, hsheet'⟩ :=
    hm.exists_entered hg.played hgoing hperm hsheet
  exact ⟨pairs ++ more, hperm', List.forall_mem_append.mpr ⟨hrecords, hmore⟩, hsheet'⟩

theorem Counted.run {events : List Event} (hc : h.Counted entries rounds)
    (hg : h.Genuine entries.toArray rounds)
    (hrun : h.run entries.toArray rounds report events = some h') :
    h'.Counted entries rounds := by
  refine (run_keeps
      (P := fun h => h.Counted entries rounds ∧ h.Genuine entries.toArray rounds)
    ?_ ⟨hc, hg⟩ hrun).1
  rintro h event h' ⟨hc, hg⟩ hm
  exact ⟨hc.step hg hm, hg.step hm⟩

end Hall

theorem complete_of_scheduled {entries : List Entry} {rounds : Rounds} {report : Report}
    {parallelism : Int} {events : List Event} {outcome : Outcome}
    {standings : List Standing}
    (h : scheduled parallelism entries rounds report events = some outcome)
    (hdone : outcome.standings = .ok standings) : outcome.Complete entries rounds := by
  obtain ⟨failure, rfl⟩ | ⟨hnames, hall, hrun, hover, rfl⟩ := scheduled_cases h
  · cases hdone
  · have hgoing : hall.stopped = none := by
      rw [Hall.outcome] at hdone
      cases hstopped : hall.stopped with
      | none => rfl
      | some failure =>
          rw [hstopped] at hdone
          cases hdone
    obtain ⟨pairs, hpairs, hrecords, hsheet⟩ :=
      (Hall.counted_opening entries rounds parallelism).run
        (Hall.genuine_opening entries parallelism) hrun hgoing
    obtain ⟨hpending, hseats⟩ := Hall.isOver_iff.mp hover
    rw [hpending, hseats] at hpairs
    refine ⟨hnames, pairs, hpairs, hrecords, ?_⟩
    rw [Hall.outcome, hgoing, hsheet, reported_foldl_enter]
    simp [State.start]

/-- The ways in which a tournament ends: its games were played one after the other, or
several at a time in any order, and whatever was reported of them. -/
inductive Ends (entries : List Entry) (rounds : Rounds) : Outcome → Prop where
  | play (canceled : Bool) (parallelism : Int) (report : Report) :
    Ends entries rounds (play canceled parallelism entries rounds report)
  | scheduled {parallelism : Int} {report : Report} {events : List Event}
      {outcome : Outcome}
    (h : scheduled parallelism entries rounds report events = some outcome) :
    Ends entries rounds outcome

/-- A tournament that has standings was played to its end. -/
theorem Ends.complete {entries : List Entry} {rounds : Rounds} {outcome : Outcome}
    {standings : List Standing} (h : Ends entries rounds outcome)
    (hdone : outcome.standings = .ok standings) : outcome.Complete entries rounds := by
  cases h with
  | play canceled parallelism report => exact complete_of_play hdone
  | scheduled h => exact complete_of_scheduled h hdone

end TapeDuel.Tournament
