import TapeDuel.Proofs.HallMoves

/-!
# Games in any order

A tournament in which nothing fails is never stopped, and of the nine things that can
happen in its hall (`Hall.Moves`) only five do: a game is launched, played, entered on
the sheet, gives the sheet back, and leaves (`Hall.Proceeds`).

What is true of the hall at all times is `Hall.Orderly`. Every pair is waiting to
be launched, or has a seat and waits for the sheet, or was entered, and it is so
once; and the sheet is what entering those pairs one after the other makes of
it. When nobody is left in the hall all pairs were entered, in some order, and
the order does not matter for the standings.

Each event takes one of the five from a pair that has them still to come
(`Hall.left`), and as long as one is to come an event is possible. So every
schedule comes to an end, and none is stuck before it.
-/

namespace TapeDuel.Tournament

namespace Stage

def isEntered : Stage → Bool
  | entered _ => true
  | leaving => true
  | _ => false

/-- The stage of a game, when nothing has failed and its record is this. -/
def Fits (record : Option GameRecord) : Stage → Prop
  | playing late => late = false
  | played result => record.map GameRecord.result = some result
  | entered failure => failure = none
  | failed _ => False
  | leaving => True

theorem Fits.result_eq {game : GameRecord} {result : GameResult}
    (h : (played result).Fits (some game)) : game.result = result :=
  Option.some.inj h

/-- The events that a game has still to come. -/
def left : Stage → Nat
  | playing _ => 4
  | played _ => 3
  | entered _ => 2
  | failed _ => 1
  | leaving => 1

def isPlaying : Stage → Bool
  | playing _ => true
  | _ => false

end Stage

def Event.isFinish : Event → Bool
  | finish _ _ => true
  | _ => false

namespace Hall

/-- The pairs that have a seat and are not entered on the sheet. -/
def waiting (seats : List Seat) : List (Nat × Nat) :=
  (seats.filter fun seat => !seat.stage.isEntered).map Seat.pairing

@[simp] theorem waiting_append (before behind : List Seat) :
    waiting (before ++ behind) = waiting before ++ waiting behind := by
  simp [waiting]

@[simp] theorem waiting_cons (seat : Seat) (behind : List Seat) :
    waiting (seat :: behind) =
      if seat.stage.isEntered then waiting behind
      else seat.pairing :: waiting behind := by
  cases h : seat.stage.isEntered <;> simp [waiting, h]

/-- The events that are still to come. -/
def left (h : Hall) : Nat :=
  5 * h.pending.length + (h.seats.map (·.stage.left)).sum

/-- The games that are still to be played to their end. -/
def unplayed (h : Hall) : Nat :=
  h.pending.length + h.seats.countP (·.stage.isPlaying)

section Proceeds

variable (entries : Array Entry) (rounds : Rounds)

/-- What can happen while nothing has failed. -/
inductive Proceeds (h : Hall) : Event → Hall → Prop
  | launch {pairing : Nat × Nat} {rest : List (Nat × Nat)} {places : Semaphore}
      (hpending : h.pending = pairing :: rest)
      (hplaces : h.places.acquire? = some places) :
      Proceeds h .launch
        { h with
          pending := rest, places
          seats := h.seats ++ [⟨pairing, .playing false⟩] }
  | finish {before behind : List Seat} {pairing : Nat × Nat} {game : GameRecord}
      (hseats : h.seats = before ++ ⟨pairing, .playing false⟩ :: behind)
      (hgame : record? entries rounds pairing = some game) :
      Proceeds h (.finish before.length none)
        { h with seats := before ++ ⟨pairing, .played game.result⟩ :: behind }
  | enter {before behind : List Seat} {pairing : Nat × Nat} {game : GameRecord}
      (hseats : h.seats = before ++ ⟨pairing, .played game.result⟩ :: behind)
      (hgame : record? entries rounds pairing = some game)
      (hsheet : h.seats.any (·.stage.hasSheet) = false) :
      Proceeds h (.advance before.length)
        { h with
          seats := before ++ ⟨pairing, .entered none⟩ :: behind
          sheet := h.sheet.enter entries rounds pairing }
  | unlock {before behind : List Seat} {pairing : Nat × Nat}
      (hseats : h.seats = before ++ ⟨pairing, .entered none⟩ :: behind) :
      Proceeds h (.advance before.length)
        { h with seats := before ++ ⟨pairing, .leaving⟩ :: behind }
  | leave {before behind : List Seat} {pairing : Nat × Nat} {places : Semaphore}
      (hseats : h.seats = before ++ ⟨pairing, .leaving⟩ :: behind)
      (hplaces : h.places.release? = some places) :
      Proceeds h (.advance before.length)
        { h with places, seats := before ++ behind }

end Proceeds

/-- What holds of the hall at all times, when nothing fails. -/
structure Orderly (entries : List Entry) (rounds : Rounds) (capacity : Nat)
    (h : Hall) : Prop where
  going : h.stopped = none
  fits : ∀ seat ∈ h.seats,
    seat.stage.Fits (record? entries.toArray rounds seat.pairing)
  booked : ∀ pairing ∈ h.pending ++ h.seats.map Seat.pairing,
    ∃ game, record? entries.toArray rounds pairing = some game
  seated : h.Seated
  capacity : h.places.capacity = capacity
  entered : ∃ pairs, (h.pending ++ waiting h.seats ++ pairs).Perm
      (pairings entries.length) ∧
    h.sheet = pairs.foldl (State.enter entries.toArray rounds) (State.start entries)

section Step

variable {entries : List Entry} {rounds : Rounds} {report : Report}
  {capacity : Nat} {h h' : Hall} {event : Event}

/-- Whoever has a seat has a game, and is at a stage of it. -/
theorem Orderly.exists_game (ho : h.Orderly entries rounds capacity) {seat : Seat}
    (hmem : seat ∈ h.seats) :
    ∃ game, record? entries.toArray rounds seat.pairing = some game ∧
      seat.stage.Fits (some game) := by
  obtain ⟨game, hgame⟩ := ho.booked seat.pairing
    (List.mem_append_right _ (List.mem_map_of_mem hmem))
  have hfits := ho.fits seat hmem
  rw [hgame] at hfits
  exact ⟨game, hgame, hfits⟩

/-- While nothing has failed, an event does one of the five. -/
theorem Orderly.proceeds (ho : h.Orderly entries rounds capacity)
    (hreport : ∀ n game, report n game = none)
    (hm : h.Moves entries.toArray rounds report event h') :
    h.Proceeds entries.toArray rounds event h' := by
  cases hm with
  | launch hpending hplaces =>
      have hlate : h.stopped.isSome = false := by
        rw [ho.going]
        rfl
      rw [hlate]
      exact .launch hpending hplaces
  | skip _ hstopped =>
      rw [ho.going] at hstopped
      cases hstopped
  | play hseats ha hb hanswers hplay =>
      obtain rfl := answers_eq_none ho.going hanswers
      have hgame := record?_eq_some_iff.mpr ⟨_, _, _, ha, hb, hplay, rfl⟩
      cases ho.fits _ (mem_seats hseats)
      exact .finish hseats hgame
  | fail hseats ha hb hanswers hplay =>
      obtain rfl := answers_eq_none ho.going hanswers
      obtain ⟨game, hgame, -⟩ := ho.exists_game (mem_seats hseats)
      obtain ⟨result, hresult, -⟩ := play_of_record? hgame ha hb
      cases hplay.symm.trans hresult
  | enter hseats ha hb hsheet =>
      obtain ⟨game, hgame, hfits⟩ := ho.exists_game (mem_seats hseats)
      obtain rfl := hfits.result_eq
      have hentered := Proceeds.enter hseats hgame hsheet
      rw [enter_eq hgame] at hentered
      obtain ⟨result, -, rfl⟩ := play_of_record? hgame ha hb
      rw [hreport]
      exact hentered
  | raise hseats => cases ho.fits _ (mem_seats hseats)
  | unlock hseats => exact .unlock hseats
  | giveUp hseats => exact (ho.fits _ (mem_seats hseats)).elim
  | leave hseats hplaces => exact .leave hseats hplaces

/-! ## What every event keeps -/

/-- Unless the hall is stopped no pair is lost, and what an event adds to the sheet are
games of pairs that waited for it. -/
theorem Moves.accounts {entries : Array Entry}
    (hm : h.Moves entries rounds report event h')
    (hplayed : ∀ seat ∈ h.seats, ∀ result, seat.stage = .played result →
      ∃ game, record? entries rounds seat.pairing = some game ∧ game.result = result)
    (hgoing : h'.stopped = none) :
    ∃ more : List (Nat × Nat),
      (more ++ (h'.pending ++ waiting h'.seats)).Perm (h.pending ++ waiting h.seats) ∧
      (∀ pairing ∈ more, ∃ game, record? entries rounds pairing = some game) ∧
      h'.sheet = more.foldl (State.enter entries rounds) h.sheet := by
  cases hm with
  | @launch pairing rest places hpending =>
      refine ⟨[], ?_, nofun, rfl⟩
      have hlast := List.perm_append_singleton pairing (rest ++ waiting h.seats)
      rw [hpending]
      simpa [Stage.isEntered, waiting] using hlast
  | skip _ hstopped => cases hstopped.symm.trans hgoing
  | play hseats | fail hseats | unlock hseats | leave hseats =>
      refine ⟨[], ?_, nofun, rfl⟩
      simp [hseats, Stage.isEntered]
  | @enter before behind pairing result a b hseats ha hb =>
      obtain ⟨game, hgame, rfl⟩ := hplayed _ (mem_seats hseats) _ rfl
      refine ⟨[pairing], ?_, List.forall_mem_singleton.mpr ⟨game, hgame⟩, ?_⟩
      · have hmiddle : (h.pending ++ waiting before ++ pairing :: waiting behind).Perm
            (pairing :: (h.pending ++ waiting before ++ waiting behind)) :=
          List.perm_middle
        simpa [hseats, Stage.isEntered] using hmiddle.symm
      · obtain ⟨result, -, rfl⟩ := play_of_record? hgame ha hb
        exact (enter_eq hgame).symm
  | raise | giveUp => exact absurd hgoing (stopped_raise_ne_none h _)

/-- So the sheet has the games of some pairs at all times, and the others wait. -/
theorem Moves.exists_entered {entries : Array Entry}
    (hm : h.Moves entries rounds report event h')
    (hplayed : ∀ seat ∈ h.seats, ∀ result, seat.stage = .played result →
      ∃ game, record? entries rounds seat.pairing = some game ∧ game.result = result)
    (hgoing : h'.stopped = none) {pairs all : List (Nat × Nat)} {start : State}
    (hperm : (h.pending ++ waiting h.seats ++ pairs).Perm all)
    (hsheet : h.sheet = pairs.foldl (State.enter entries rounds) start) :
    ∃ more, (h'.pending ++ waiting h'.seats ++ (pairs ++ more)).Perm all ∧
      (∀ pairing ∈ more, ∃ game, record? entries rounds pairing = some game) ∧
      h'.sheet = (pairs ++ more).foldl (State.enter entries rounds) start := by
  obtain ⟨more, hmoved, hrecords, hentered⟩ := hm.accounts hplayed hgoing
  refine ⟨more, ?_, hrecords, ?_⟩
  · have hfront : (h'.pending ++ waiting h'.seats ++ (pairs ++ more)).Perm
        (more ++ (h'.pending ++ waiting h'.seats) ++ pairs) := by
      rw [← List.append_assoc, List.append_assoc more]
      exact List.perm_append_comm
    exact hfront.trans ((hmoved.append_right pairs).trans hperm)
  · rw [hentered, hsheet, List.foldl_append]

theorem Orderly.exists_played (ho : h.Orderly entries rounds capacity) :
    ∀ seat ∈ h.seats, ∀ result, seat.stage = .played result →
      ∃ game, record? entries.toArray rounds seat.pairing = some game ∧
        game.result = result := by
  intro seat hmem result hstage
  obtain ⟨game, hgame, hfits⟩ := ho.exists_game hmem
  rw [hstage] at hfits
  exact ⟨game, hgame, hfits.result_eq⟩

theorem Proceeds.stopped_eq (hp : h.Proceeds entries.toArray rounds event h') :
    h'.stopped = h.stopped := by
  cases hp <;> rfl

theorem Proceeds.fits (hp : h.Proceeds entries.toArray rounds event h')
    (hfits : ∀ seat ∈ h.seats,
      seat.stage.Fits (record? entries.toArray rounds seat.pairing)) :
    ∀ seat ∈ h'.seats,
      seat.stage.Fits (record? entries.toArray rounds seat.pairing) := by
  cases hp with
  | launch =>
      rw [List.forall_mem_append, List.forall_mem_singleton]
      exact ⟨hfits, rfl⟩
  | finish hseats hgame =>
      rw [hseats, forall_seats] at hfits
      refine forall_seats.mpr ⟨hfits.1, ?_, hfits.2.2⟩
      rw [hgame]
      rfl
  | enter hseats =>
      rw [hseats, forall_seats] at hfits
      exact forall_seats.mpr ⟨hfits.1, rfl, hfits.2.2⟩
  | unlock hseats =>
      rw [hseats, forall_seats] at hfits
      exact forall_seats.mpr ⟨hfits.1, trivial, hfits.2.2⟩
  | leave hseats =>
      rw [hseats, forall_seats] at hfits
      exact List.forall_mem_append.mpr ⟨hfits.1, hfits.2.2⟩

theorem Orderly.step (ho : h.Orderly entries rounds capacity)
    (hreport : ∀ n game, report n game = none)
    (hm : h.Moves entries.toArray rounds report event h') :
    h'.Orderly entries rounds capacity := by
  have hp := ho.proceeds hreport hm
  have hgoing : h'.stopped = none := hp.stopped_eq.trans ho.going
  obtain ⟨pairs, hperm, hsheet⟩ := ho.entered
  obtain ⟨more, hperm', -, hsheet'⟩ :=
    hm.exists_entered ho.exists_played hgoing hperm hsheet
  exact
    { going := hgoing
      fits := hp.fits ho.fits
      booked := fun pairing hmem => ho.booked pairing (hm.booked_subset hmem)
      seated := hm.seated ho.seated
      capacity := hm.capacity_eq.trans ho.capacity
      entered := ⟨pairs ++ more, hperm', hsheet'⟩ }

/-- An event is one of those that were still to come. -/
theorem Proceeds.left (hp : h.Proceeds entries.toArray rounds event h') :
    h'.left + 1 = h.left := by
  cases hp with
  | launch hpending =>
      simp only [Hall.left, hpending, List.length_cons, List.map_append,
        List.sum_append, List.map_cons, List.map_nil, List.sum_cons, List.sum_nil,
        Stage.left]
      omega
  | finish hseats | enter hseats | unlock hseats | leave hseats =>
      simp only [Hall.left, hseats, List.map_append, List.sum_append, List.map_cons,
        List.sum_cons, Stage.left]
      omega

theorem Proceeds.unplayed (hp : h.Proceeds entries.toArray rounds event h') :
    h'.unplayed + [event].countP Event.isFinish = h.unplayed := by
  cases hp with
  | launch hpending =>
      simp only [Hall.unplayed, hpending, List.length_cons, List.countP_append,
        List.countP_cons, List.countP_nil, Stage.isPlaying, Event.isFinish,
        if_true, Bool.false_eq_true, if_false]
      omega
  | finish hseats | enter hseats | unlock hseats | leave hseats =>
      simp only [Hall.unplayed, hseats, List.countP_append, List.countP_cons,
        List.countP_nil, Stage.isPlaying, Event.isFinish, if_true,
        Bool.false_eq_true, if_false]
      omega

theorem Orderly.exists_moves (ho : h.Orderly entries rounds capacity) (report : Report)
    (hcapacity : 0 < capacity) (hgoing : h.isOver = false) :
    ∃ event h', h.Moves entries.toArray rounds report event h' := by
  refine Hall.exists_moves rounds report ho.seated ?_ (fun seat hmem => ?_) hgoing
  · rwa [ho.capacity]
  · obtain ⟨game, hgame, -⟩ := ho.exists_game hmem
    obtain ⟨a, b, result, ha, hb, -⟩ := record?_eq_some_iff.mp hgame
    exact ⟨a, b, ha, hb⟩

end Step

/-! ## Whole schedules -/

section Run

variable {entries : List Entry} {rounds : Rounds} {report : Report}
  {capacity : Nat}

/-- Any number of events leaves the hall orderly, and each of them was still to
come. -/
theorem Orderly.run (hreport : ∀ n game, report n game = none)
    {events : List Event} : ∀ {h h' : Hall}, h.Orderly entries rounds capacity →
      h.run entries.toArray rounds report events = some h' →
      h'.Orderly entries rounds capacity ∧ h'.left + events.length = h.left ∧
        h'.unplayed + events.countP Event.isFinish = h.unplayed := by
  induction events with
  | nil =>
      intro h h' ho hrun
      cases hrun
      exact ⟨ho, rfl, rfl⟩
  | cons event events ih =>
      intro h h' ho hrun
      rw [Hall.run] at hrun
      split at hrun
      · next next hstep =>
          have hm := step_eq_some_iff.mp hstep
          have hp := ho.proceeds hreport hm
          obtain ⟨ho', hleft, hunplayed⟩ := ih (ho.step hreport hm) hrun
          refine ⟨ho', ?_, ?_⟩
          · rw [List.length_cons, ← hp.left]
            omega
          · rw [← List.singleton_append, List.countP_append, ← hp.unplayed]
            omega
      · cases hrun

/-- A tournament that has begun can be brought to its end. -/
theorem Orderly.exists_over (hreport : ∀ n game, report n game = none)
    (hcapacity : 0 < capacity) {h : Hall} (ho : h.Orderly entries rounds capacity) :
    ∃ events h', h.run entries.toArray rounds report events = some h' ∧
      h'.isOver = true := by
  induction hleft : h.left using Nat.strongRecOn generalizing h with
  | _ left ih =>
      cases hover : h.isOver with
      | true => exact ⟨[], h, rfl, hover⟩
      | false =>
          obtain ⟨event, h', hm⟩ := ho.exists_moves report hcapacity hover
          have hless : h'.left < left := by
            rw [← hleft, ← (ho.proceeds hreport hm).left]
            exact Nat.lt_succ_self _
          obtain ⟨events, h'', hrun, hover'⟩ := ih _ hless (ho.step hreport hm) rfl
          refine ⟨event :: events, h'', ?_, hover'⟩
          rw [Hall.run, hm.step]
          exact hrun

theorem orderly_opening (h : Playable entries rounds) (parallelism : Int) :
    (opening entries parallelism).Orderly entries rounds
      (max 1 parallelism.toNat) := by
  refine ⟨rfl, nofun, ?_, rfl, rfl, [], ?_, rfl⟩
  · intro pairing hmem
    exact h.exists_record pairing (by simpa [opening] using hmem)
  · simp [opening, waiting]

/-- What is left of a tournament that is over: its pairs, in the order in which
they were entered. -/
theorem Orderly.outcome_eq {h : Hall} (ho : h.Orderly entries rounds capacity)
    (hover : h.isOver = true) :
    ∃ pairs : List (Nat × Nat), pairs.Perm (pairings entries.length) ∧
      h.outcome = ⟨pairs.filterMap (record? entries.toArray rounds),
        .ok (sortStandings (pairs.foldl (State.enter entries.toArray rounds)
          (State.start entries)).standings.toList)⟩ := by
  obtain ⟨hpending, hseats⟩ := isOver_iff.mp hover
  obtain ⟨pairs, hperm, hsheet⟩ := ho.entered
  rw [hpending, hseats] at hperm
  refine ⟨pairs, hperm, ?_⟩
  rw [outcome, ho.going, hsheet, reported_foldl_enter]
  simp [State.start]

end Run

end Hall

section Scheduled

variable {entries : List Entry} {rounds : Rounds} {parallelism : Int}
  {report : Report}

/-- A schedule makes up a whole tournament if it leads from the opening to where
the tournament is over. -/
theorem scheduled_eq_some_iff (h : Playable entries rounds)
    (hparallelism : parallelism ≤ Semaphore.maxCapacity) {events : List Event}
    {outcome : Outcome} :
    scheduled parallelism entries rounds report events = some outcome ↔
      ∃ hall, (Hall.opening entries parallelism).run entries.toArray rounds report
          events = some hall ∧ hall.isOver = true ∧ outcome = hall.outcome := by
  rw [scheduled, duplicated?_eq_none h.names, Semaphore.new?_max hparallelism]
  dsimp only
  cases (Hall.opening entries parallelism).run entries.toArray rounds report
    events with
  | none => exact ⟨nofun, nofun⟩
  | some hall =>
      dsimp only
      constructor
      · intro hsome
        split at hsome
        · next hover =>
            cases hsome
            exact ⟨hall, rfl, hover, rfl⟩
        · cases hsome
      · rintro ⟨hall', hhall, hover, rfl⟩
        cases hhall
        rw [if_pos hover]

/-- Three bots: one that attacks, one that waits and one that runs away. -/
def threeBots : List Entry :=
  [⟨"hare", Block.program (.act .forward (.act .increment .done))⟩,
    ⟨"owl", Block.program (.act .rest .done)⟩,
    ⟨"mouse", Block.program (.act .back .done)⟩]

theorem playable_threeBots : Playable threeBots (.listed [⟨2, false, 3⟩]) where
  names := by decide
  compiled := by
    rw [threeBots]
    simp only [List.forall_mem_cons]
    exact ⟨⟨⟨"", ">+"⟩, by cbv⟩, ⟨⟨"", "."⟩, by cbv⟩, ⟨⟨"", "<"⟩, by cbv⟩, nofun⟩
  valid := by decide
  room := by decide

end Scheduled

end TapeDuel.Tournament
