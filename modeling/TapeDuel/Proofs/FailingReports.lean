import TapeDuel.Proofs.CompletedTournaments
import TapeDuel.Proofs.HallMoves
import TapeDuel.Proofs.Standings

/-!
# A report that fails

A report can end a tournament whose games cannot fail. It does so in three phases
(`Hall.Phase`). At first every report has succeeded and nothing was stopped. Then one
fails, and as long as its game has the score sheet nothing else is reported: the
failure that is about to be raised is the only one that there is. When it is raised the
tournament is stopped, and no later failure takes its place.

From then on a game that is launched is told to stop before its first round, so it is
never reported. The games that can still be reported were launched before, and each of
them holds a place (`Stage.mayReport`); one place is held by the game whose report
failed. That is why the reports behind the failing one are fewer than the places.
-/

namespace TapeDuel

/-- A game of at least one round that is told to stop at once. -/
theorem Game.play_after_zero {a b : Program} {rounds : Rounds}
    (hvalid : rounds.flaw? = none) (hsome : rounds.toList ≠ []) :
    play (.after 0) a b rounds = .error .canceled := by
  obtain ⟨params, rest, hrounds⟩ := List.exists_cons_of_ne_nil hsome
  have hstop : Interrupts.after 0 0 = true := rfl
  rw [play, hvalid]
  dsimp only
  rw [hrounds, run_task_cons, playRound, if_pos hstop]

namespace Tournament

/-! ## Reports -/

/-- The reports of these games succeed. -/
def Report.Succeeds (report : Report) (games : List GameRecord) : Prop :=
  ∀ m game, games[m]? = some game → report m game = none

/-- The report of game `n` is the first of these that fails, and this is how. -/
structure Report.FirstFails (report : Report) (games : List GameRecord) (n : Nat)
    (failure : Failure) : Prop where
  fails : ∃ game, games[n]? = some game ∧ report n game = some failure
  before : ∀ m < n, ∀ game, games[m]? = some game → report m game = none

namespace Report

variable {report : Report} {games : List GameRecord} {game : GameRecord} {n : Nat}
  {failure : Failure}

theorem succeeds_nil (report : Report) : report.Succeeds [] := by
  intro m game hgame
  cases hgame

theorem FirstFails.lt_length (h : report.FirstFails games n failure) :
    n < games.length := by
  obtain ⟨game, hgame, -⟩ := h.fails
  exact (List.getElem?_eq_some_iff.mp hgame).1

theorem FirstFails.append (h : report.FirstFails games n failure)
    (more : List GameRecord) : report.FirstFails (games ++ more) n failure := by
  have hlt := h.lt_length
  refine ⟨?_, fun m hm game hgame => ?_⟩
  · rw [List.getElem?_append_left hlt]
    exact h.fails
  · rw [List.getElem?_append_left (Nat.lt_trans hm hlt)] at hgame
    exact h.before m hm game hgame

theorem Succeeds.append (h : report.Succeeds games)
    (hreport : report games.length game = none) : report.Succeeds (games ++ [game]) := by
  intro m other hother
  rcases Nat.lt_or_ge m games.length with hlt | hle
  · rw [List.getElem?_append_left hlt] at hother
    exact h m other hother
  · rw [List.getElem?_append_right hle, List.getElem?_singleton] at hother
    split at hother
    · next hlast =>
        cases hother
        rwa [show m = games.length by omega]
    · cases hother

theorem Succeeds.firstFails (h : report.Succeeds games)
    (hreport : report games.length game = some failure) :
    report.FirstFails (games ++ [game]) games.length failure := by
  refine ⟨⟨game, List.getElem?_concat_length, hreport⟩, fun m hm other hother => ?_⟩
  rw [List.getElem?_append_left hm] at hother
  exact h m other hother

end Report

/-- How a tournament ends whose games cannot fail. Behind the first report that fails
there are fewer than there are places. -/
inductive Outcome.Reported (report : Report) (places : Nat) (outcome : Outcome) : Prop
  | succeeds (hreports : report.Succeeds outcome.games)
  | fails {n : Nat} {failure : Failure}
      (hfirst : report.FirstFails outcome.games n failure)
      (hstandings : outcome.standings = .error failure)
      (hfew : outcome.games.length ≤ n + places)

theorem Outcome.Reported.exists_firstFails {report : Report} {places m : Nat}
    {outcome : Outcome} {game : GameRecord} (h : outcome.Reported report places)
    (hgame : outcome.games[m]? = some game) (hfails : (report m game).isSome = true) :
    ∃ n failure, report.FirstFails outcome.games n failure ∧
      outcome.standings = .error failure ∧ outcome.games.length ≤ n + places := by
  cases h with
  | succeeds hreports =>
      rw [hreports m game hgame] at hfails
      cases hfails
  | fails hfirst hstandings hfew => exact ⟨_, _, hfirst, hstandings, hfew⟩

/-! ## Game after game -/

section Play

variable {entries : List Entry} {rounds : Rounds} {report : Report}

/-- Nothing is played behind a report that fails. -/
theorem playFrom_reported {pairs : List (Nat × Nat)}
    (hpairs : ∀ pairing ∈ pairs,
      ∃ game, record? entries.toArray rounds pairing = some game)
    {s : State} (hs : report.Succeeds s.reported.reverse) :
    (playFrom entries.toArray rounds report pairs s).Reported report 1 := by
  induction pairs generalizing s with
  | nil => exact .succeeds hs
  | cons pairing pairs ih =>
      obtain ⟨⟨game, hgame⟩, hpairs⟩ := List.forall_mem_cons.mp hpairs
      obtain ⟨a, b, result, ha, hb, hplay, rfl⟩ := record?_eq_some_iff.mp hgame
      rw [playFrom, ha, hb]
      simp only [hplay]
      rw [← List.length_reverse]
      cases hreport : report s.reported.reverse.length ⟨a.name, b.name, result⟩ with
      | none =>
          refine ih hpairs ?_
          rw [List.reverse_cons]
          exact hs.append hreport
      | some failure =>
          have hfirst := hs.firstFails hreport
          rw [← List.reverse_cons] at hfirst
          refine .fails hfirst rfl ?_
          rw [List.length_reverse, List.length_cons, List.length_reverse]

end Play

/-! ## Several games at a time -/

namespace Stage

/-- The stage of a game of a tournament in which no report has failed. -/
def Calm : Stage → Prop
  | playing late => late = false
  | played _ => True
  | entered failure => failure = none
  | failed _ => False
  | leaving => True

/-- Whether a game may come to be reported when the tournament was stopped. -/
def mayReport : Stage → Bool
  | playing late => !late
  | played _ => true
  | _ => false

end Stage

namespace Hall

/-- The games with a seat that may come to be reported when the tournament was
stopped. -/
def unreported (seats : List Seat) : Nat :=
  seats.countP (·.stage.mayReport)

theorem unreported_append (before behind : List Seat) (pairing : Nat × Nat)
    (stage : Stage) :
    unreported (before ++ ⟨pairing, stage⟩ :: behind) =
      unreported (before ++ behind) + stage.mayReport.toNat := by
  rw [unreported, unreported, List.countP_append, List.countP_cons, List.countP_append,
    Nat.add_assoc]
  cases stage.mayReport <;> rfl

theorem unreported_le (seats : List Seat) : unreported seats ≤ seats.length :=
  List.countP_le_length

/-- The phases of a tournament whose games cannot fail. -/
inductive Phase (report : Report) (capacity : Nat) (h : Hall) : Prop
  /-- Every report has succeeded. -/
  | going (hgoing : h.stopped = none)
      (hreports : report.Succeeds h.sheet.reported.reverse)
      (hcalm : ∀ seat ∈ h.seats, seat.stage.Calm)
  /-- A report has failed, and its game still has the score sheet. -/
  | struck {n : Nat} {failure : Failure} (hgoing : h.stopped = none)
      (hfirst : report.FirstFails h.sheet.reported.reverse n failure)
      (hlast : h.sheet.reported.length = n + 1)
      (hholder : ∃ seat ∈ h.seats, seat.stage = .entered (some failure))
      (hcalm : ∀ seat ∈ h.seats,
        seat.stage.Calm ∨ seat.stage = .entered (some failure))
  /-- The failure was raised. -/
  | stopped {n : Nat} {failure : Failure} (hstopped : h.stopped = some failure)
      (hfirst : report.FirstFails h.sheet.reported.reverse n failure)
      (hfew : h.sheet.reported.length + unreported h.seats ≤ n + capacity)

theorem phase_opening (entries : List Entry) (report : Report) (parallelism : Int)
    (capacity : Nat) : (opening entries parallelism).Phase report capacity :=
  .going rfl (Report.succeeds_nil report) fun _ hmem => absurd hmem List.not_mem_nil

section Step

variable {entries : List Entry} {rounds : Rounds} {report : Report} {capacity : Nat}
  {h h' : Hall} {event : Event}

/-- A game of a pair does not fail unless it is told to stop. -/
theorem play_ne_error (hp : Playable entries rounds) {pairing : Nat × Nat} {a b : Entry}
    (hmem : pairing ∈ pairings entries.length)
    (ha : entries.toArray[pairing.1]? = some a)
    (hb : entries.toArray[pairing.2]? = some b) (failure : Failure) :
    Game.play .never a.program b.program rounds ≠ .error failure := by
  obtain ⟨game, hgame⟩ := hp.exists_record pairing hmem
  obtain ⟨result, hplay, -⟩ := play_of_record? hgame ha hb
  rw [hplay]
  rintro ⟨⟩

theorem stopped_raise {first : Failure} (hstopped : h.stopped = some first)
    (failure : Failure) : (h.raise failure).stopped = some first := by
  rw [raise, hstopped]
  rfl

/-- No game fails before the tournament is stopped. -/
theorem not_fail_of_going (hp : Playable entries rounds) (hk : h.Kept entries capacity)
    (hgoing : h.stopped = none) {before behind : List Seat} {pairing : Nat × Nat}
    {late : Bool} {a b : Entry} {answers : Option Nat} {failure : Failure}
    (hseats : h.seats = before ++ ⟨pairing, .playing late⟩ :: behind)
    (ha : entries.toArray[pairing.1]? = some a)
    (hb : entries.toArray[pairing.2]? = some b)
    (hanswers : h.canAnswer late answers = true)
    (hplay : Game.play (interrupts answers) a.program b.program rounds =
      .error failure) :
    False := by
  obtain rfl := answers_eq_none hgoing hanswers
  exact play_ne_error hp (hk.mem_pairings (mem_seats hseats)) ha hb failure hplay

/-- While every report succeeds. -/
theorem Phase.step_going (hp : Playable entries rounds) (hk : h.Kept entries capacity)
    (hgoing : h.stopped = none) (hreports : report.Succeeds h.sheet.reported.reverse)
    (hcalm : ∀ seat ∈ h.seats, seat.stage.Calm)
    (hm : h.Moves entries.toArray rounds report event h') :
    h'.Phase report capacity := by
  cases hm with
  | launch =>
      refine .going hgoing hreports ?_
      rw [List.forall_mem_append, List.forall_mem_singleton, hgoing]
      exact ⟨hcalm, rfl⟩
  | skip _ hstopped =>
      rw [hgoing] at hstopped
      cases hstopped
  | play hseats | unlock hseats =>
      rw [hseats, forall_seats] at hcalm
      exact .going hgoing hreports (forall_seats.mpr ⟨hcalm.1, trivial, hcalm.2.2⟩)
  | fail hseats ha hb hanswers hplay =>
      exact (not_fail_of_going hp hk hgoing hseats ha hb hanswers hplay).elim
  | @enter _ _ _ result a b hseats =>
      rw [hseats, forall_seats] at hcalm
      rw [← List.length_reverse]
      cases hreport : report h.sheet.reported.reverse.length
          ⟨a.name, b.name, result⟩ with
      | none =>
          refine .going hgoing ?_ (forall_seats.mpr ⟨hcalm.1, rfl, hcalm.2.2⟩)
          rw [List.reverse_cons]
          exact hreports.append hreport
      | some failure =>
          have hfirst := hreports.firstFails hreport
          rw [← List.reverse_cons] at hfirst
          refine .struck hgoing hfirst ?_ (exists_seats.mpr (.inl rfl))
            (forall_seats.mpr ⟨fun s hs => .inl (hcalm.1 s hs), .inr rfl,
              fun s hs => .inl (hcalm.2.2 s hs)⟩)
          rw [List.length_reverse, List.length_cons]
  | raise hseats =>
      rw [hseats, forall_seats] at hcalm
      cases hcalm.2.1
  | giveUp hseats =>
      rw [hseats, forall_seats] at hcalm
      exact hcalm.2.1.elim
  | leave hseats =>
      rw [hseats, forall_seats] at hcalm
      exact .going hgoing hreports (List.forall_mem_append.mpr ⟨hcalm.1, hcalm.2.2⟩)

/-- While the game whose report failed has the score sheet. -/
theorem Phase.step_struck (hp : Playable entries rounds) (hk : h.Kept entries capacity)
    {n : Nat} {failure : Failure} (hgoing : h.stopped = none)
    (hfirst : report.FirstFails h.sheet.reported.reverse n failure)
    (hlast : h.sheet.reported.length = n + 1)
    (hholder : ∃ seat ∈ h.seats, seat.stage = .entered (some failure))
    (hcalm : ∀ seat ∈ h.seats, seat.stage.Calm ∨ seat.stage = .entered (some failure))
    (hm : h.Moves entries.toArray rounds report event h') :
    h'.Phase report capacity := by
  cases hm with
  | launch =>
      refine .struck hgoing hfirst hlast ?_ ?_
      · obtain ⟨seat, hmem, hstage⟩ := hholder
        exact ⟨seat, List.mem_append_left _ hmem, hstage⟩
      · rw [List.forall_mem_append, List.forall_mem_singleton, hgoing]
        exact ⟨hcalm, .inl rfl⟩
  | skip _ hstopped =>
      rw [hgoing] at hstopped
      cases hstopped
  | play hseats | unlock hseats =>
      rw [hseats, forall_seats] at hcalm
      rw [hseats, exists_seats] at hholder
      refine .struck hgoing hfirst hlast (exists_seats.mpr (.inr ?_))
        (forall_seats.mpr ⟨hcalm.1, .inl trivial, hcalm.2.2⟩)
      exact hholder.resolve_left (by rintro ⟨⟩)
  | fail hseats ha hb hanswers hplay =>
      exact (not_fail_of_going hp hk hgoing hseats ha hb hanswers hplay).elim
  | enter _ _ _ hsheet =>
      obtain ⟨seat, hmem, hstage⟩ := hholder
      have hhas := List.any_eq_false.mp hsheet seat hmem
      rw [hstage] at hhas
      exact (hhas rfl).elim
  | @raise before behind pairing other hseats =>
      have hroom := hk.length_seats_le
      rw [hseats, forall_seats] at hcalm
      rw [hseats, List.length_append, List.length_cons] at hroom
      obtain rfl : other = failure := by
        rcases hcalm.2.1 with hnone | hsome
        · cases hnone
        · cases hsome
          rfl
      refine .stopped ?_ hfirst ?_
      · rw [raise, hgoing]
        rfl
      · have hseated := unreported_le (before ++ behind)
        rw [List.length_append] at hseated
        simp only [unreported_append, sheet_raise, hlast, Stage.mayReport,
          Bool.toNat_false]
        omega
  | giveUp hseats =>
      rw [hseats, forall_seats] at hcalm
      exact (hcalm.2.1.resolve_right (by rintro ⟨⟩)).elim
  | leave hseats =>
      rw [hseats, forall_seats] at hcalm
      rw [hseats, exists_seats] at hholder
      exact .struck hgoing hfirst hlast (hholder.resolve_left (by rintro ⟨⟩))
        (List.forall_mem_append.mpr ⟨hcalm.1, hcalm.2.2⟩)

/-- When the failure was raised. -/
theorem Phase.step_stopped (hvalid : rounds.flaw? = none) (hsome : rounds.toList ≠ [])
    {n : Nat} {failure : Failure} (hstopped : h.stopped = some failure)
    (hfirst : report.FirstFails h.sheet.reported.reverse n failure)
    (hfew : h.sheet.reported.length + unreported h.seats ≤ n + capacity)
    (hm : h.Moves entries.toArray rounds report event h') :
    h'.Phase report capacity := by
  cases hm with
  | launch =>
      refine .stopped hstopped hfirst ?_
      rw [unreported_append, hstopped, List.append_nil]
      exact hfew
  | skip => exact .stopped hstopped hfirst hfew
  | @play _ _ _ late _ _ _ _ hseats _ _ hanswers hplay =>
      -- A game that was launched after the stop has no result.
      have hearly : late = false := by
        rw [canAnswer, hstopped] at hanswers
        cases late with
        | false => rfl
        | true =>
            rw [beq_iff_eq.mp hanswers, interrupts, Game.play_after_zero hvalid hsome]
              at hplay
            cases hplay
      rw [hseats, unreported_append, hearly] at hfew
      refine .stopped hstopped hfirst ?_
      rw [unreported_append]
      exact hfew
  | fail hseats | unlock hseats =>
      rw [hseats, unreported_append] at hfew
      refine .stopped hstopped hfirst ?_
      simp only [unreported_append, Stage.mayReport, Bool.toNat_false]
      omega
  | @enter _ _ _ result a b hseats =>
      have hfirst := hfirst.append [⟨a.name, b.name, result⟩]
      rw [← List.reverse_cons] at hfirst
      refine .stopped hstopped hfirst ?_
      simp only [hseats, unreported_append, Stage.mayReport, Bool.toNat_true] at hfew
      simp only [unreported_append, Stage.mayReport, Bool.toNat_false, List.length_cons]
      omega
  | raise hseats | giveUp hseats =>
      rw [hseats, unreported_append] at hfew
      refine .stopped (stopped_raise hstopped _) hfirst ?_
      simp only [unreported_append, sheet_raise, Stage.mayReport, Bool.toNat_false]
      omega
  | leave hseats =>
      rw [hseats, unreported_append] at hfew
      exact .stopped hstopped hfirst hfew

theorem Phase.step (hp : Playable entries rounds) (hsome : rounds.toList ≠ [])
    (hk : h.Kept entries capacity) (hphase : h.Phase report capacity)
    (hm : h.Moves entries.toArray rounds report event h') :
    h'.Phase report capacity := by
  cases hphase with
  | going hgoing hreports hcalm => exact .step_going hp hk hgoing hreports hcalm hm
  | struck hgoing hfirst hlast hholder hcalm =>
      exact .step_struck hp hk hgoing hfirst hlast hholder hcalm hm
  | stopped hstopped hfirst hfew =>
      exact .step_stopped hp.valid hsome hstopped hfirst hfew hm

theorem Phase.run (hp : Playable entries rounds) (hsome : rounds.toList ≠ [])
    {events : List Event} (hk : h.Kept entries capacity)
    (hphase : h.Phase report capacity)
    (hrun : h.run entries.toArray rounds report events = some h') :
    h'.Phase report capacity := by
  refine (run_keeps (P := fun h => h.Kept entries capacity ∧ h.Phase report capacity)
    ?_ ⟨hk, hphase⟩ hrun).2
  rintro h event h' ⟨hk, hphase⟩ hm
  exact ⟨hk.step hm, hphase.step hp hsome hk hm⟩

/-- Nobody has the score sheet when the tournament is over. -/
theorem Phase.outcome (hphase : h.Phase report capacity) (hover : h.isOver = true) :
    h.outcome.Reported report capacity := by
  have hempty := (isOver_iff.mp hover).2
  cases hphase with
  | going _ hreports => exact .succeeds hreports
  | struck _ _ _ hholder =>
      obtain ⟨seat, hmem, -⟩ := hholder
      rw [hempty] at hmem
      cases hmem
  | stopped hstopped hfirst hfew =>
      refine .fails hfirst ?_ ?_
      · rw [Hall.outcome, hstopped]
      · rw [Hall.outcome, List.length_reverse]
        exact Nat.le_trans (Nat.le_add_right _ _) hfew

end Step

end Hall

/-! ## Whole tournaments -/

section Whole

variable {entries : List Entry} {rounds : Rounds} {report : Report} {parallelism : Int}
  {events : List Event}

/-- If one game of a tournament was played to its end, none can fail. -/
theorem IsPlayed.playable {game : GameRecord} (h : IsPlayed entries rounds game)
    (hcompiled : ∀ e ∈ entries, ∃ source : Source, source.compile = .ok e.program)
    (hvalid : rounds.flaw? = none) : Playable entries rounds where
  names := h.names
  compiled := hcompiled
  valid := hvalid
  room := by
    obtain ⟨pairing, hgame⟩ := h.exists_pairing
    obtain ⟨a, b, result, ha, hb, hplay, -⟩ := record?_eq_some_iff.mp hgame
    obtain ⟨sa, hsa⟩ := hcompiled a (List.mem_of_getElem? (by simpa using ha))
    obtain ⟨sb, hsb⟩ := hcompiled b (List.mem_of_getElem? (by simpa using hb))
    intro params hparams
    refine Bool.of_not_eq_false fun hroom => ?_
    rw [Game.play_noRoom (Source.sound_of_compile hsa) (Source.sound_of_compile hsb)
      hvalid ⟨params, hparams, hroom⟩] at hplay
    cases hplay

theorem Playable.reported_of_play (h : Playable entries rounds) (canceled : Bool) :
    (play canceled parallelism entries rounds report).Reported report 1 := by
  obtain ⟨failure, hplay⟩ | ⟨-, hplay⟩ :=
    play_cases canceled parallelism entries rounds report
  · rw [hplay]
    exact .succeeds (Report.succeeds_nil report)
  · rw [hplay]
    exact playFrom_reported h.exists_record (Report.succeeds_nil report)

theorem Playable.reported_of_scheduled (h : Playable entries rounds)
    (hsome : rounds.toList ≠ []) {outcome : Outcome}
    (hscheduled : scheduled parallelism entries rounds report events = some outcome) :
    outcome.Reported report (max 1 parallelism.toNat) := by
  obtain ⟨failure, rfl⟩ | ⟨-, hall, hrun, hover, rfl⟩ := scheduled_cases hscheduled
  · exact .succeeds (Report.succeeds_nil report)
  · have hphase := (Hall.phase_opening entries report parallelism
      (max 1 parallelism.toNat)).run h hsome (Hall.kept_opening entries parallelism) hrun
    exact hphase.outcome hover

/-- However a tournament is scheduled, it can be brought to its end. -/
theorem exists_scheduled (hnames : (entries.map Entry.name).Nodup) {hall : Hall}
    (hrun : (Hall.opening entries parallelism).run entries.toArray rounds report events =
      some hall) :
    ∃ more outcome, scheduled parallelism entries rounds report (events ++ more) =
      some outcome := by
  have hk := (Hall.kept_opening entries parallelism).run hrun
  obtain ⟨more, hall', hmore, hover⟩ := hk.exists_over rounds report (by omega)
  cases hplaces : Semaphore.new? (max parallelism 1) with
  | error fault =>
      refine ⟨[], ⟨[], .error (.fault fault)⟩, ?_⟩
      rw [scheduled, duplicated?_eq_none hnames, hplaces]
  | ok places =>
      refine ⟨more, hall'.outcome, ?_⟩
      rw [scheduled, duplicated?_eq_none hnames, hplaces]
      dsimp only
      rw [Hall.run_append hrun, hmore]
      exact if_pos hover

/-- A report that fails stops the tournament cleanly. Its bots have different names and
are compiled, and there is a round and all rounds are valid; the games are played at most
so many at a time, in any order, and the reports are answered in any way. Wherever a
schedule stands it can be brought to an end, which is never far. If some report has
failed by then, there are no standings but the failure of the first such report, and
behind it are fewer reports than games were played at a time: none, if it was one. When
games are played one after the other, none is ever behind it. -/
theorem failing_report_stops_cleanly (hnames : (entries.map Entry.name).Nodup)
    (hcompiled : ∀ e ∈ entries, ∃ source : Source, source.compile = .ok e.program)
    (hvalid : rounds.flaw? = none) (hsome : rounds.toList ≠ []) (parallelism : Int)
    (report : Report) :
    (∀ events hall, (Hall.opening entries parallelism).run entries.toArray rounds report
        events = some hall →
      events.length ≤ 6 * (pairings entries.length).length ∧
      ∃ more outcome, scheduled parallelism entries rounds report (events ++ more) =
        some outcome) ∧
    (∀ events outcome,
      scheduled parallelism entries rounds report events = some outcome →
      (∃ n game, outcome.games[n]? = some game ∧ (report n game).isSome = true) →
      ∃ n failure, report.FirstFails outcome.games n failure ∧
        outcome.standings = .error failure ∧
        (outcome.games.length : Int) - (n + 1) ≤ max 1 parallelism - 1 ∧
        (parallelism ≤ 1 → outcome.games.length = n + 1)) ∧
    ((∃ n game, (play false parallelism entries rounds report).games[n]? = some game ∧
        (report n game).isSome = true) →
      ∃ n failure,
        report.FirstFails (play false parallelism entries rounds report).games n
          failure ∧
        (play false parallelism entries rounds report).standings = .error failure ∧
        (play false parallelism entries rounds report).games.length = n + 1) := by
  refine ⟨fun events hall hrun => ⟨?_, exists_scheduled hnames hrun⟩,
    fun events outcome hscheduled hfails => ?_, fun hfails => ?_⟩
  · have hlength := Hall.toCome_run hrun
    have htoCome : (Hall.opening entries parallelism).toCome =
      6 * (pairings entries.length).length := rfl
    omega
  · obtain ⟨m, game, hgame, hfails⟩ := hfails
    have hplayable :=
      (isPlayed_of_scheduled hscheduled (List.mem_of_getElem? hgame)).playable
      hcompiled hvalid
    obtain ⟨n, failure, hfirst, hstandings, hfew⟩ :=
      (hplayable.reported_of_scheduled hsome hscheduled).exists_firstFails hgame hfails
    have hlt := hfirst.lt_length
    exact ⟨n, failure, hfirst, hstandings, by omega, fun hone => by omega⟩
  · obtain ⟨m, game, hgame, hfails⟩ := hfails
    have hplayable :=
      (isPlayed_of_play (List.mem_of_getElem? hgame)).playable hcompiled hvalid
    obtain ⟨n, failure, hfirst, hstandings, hfew⟩ :=
      (hplayable.reported_of_play false).exists_firstFails hgame hfails
    exact ⟨n, failure, hfirst, hstandings, Nat.le_antisymm hfew hfirst.lt_length⟩

/-- The theorem at a schedule in which two games are over before the second of them is
reported. Both reports fail, and the first of them counts; the third game is launched
behind it and never reported. -/
theorem failing_report_stops_cleanly_overtaking :
    ∃ outcome,
      scheduled 2 threeBots (.listed [⟨2, false, 3⟩])
        (fun n _ => some (.plain (if n = 0 then "first" else "later")))
        [.launch, .launch, .finish 1 none, .finish 0 none, .advance 1, .advance 1,
          .advance 1, .advance 0, .advance 0, .advance 0, .advance 0, .advance 0,
          .launch, .finish 0 (some 0), .advance 0, .advance 0] = some outcome ∧
      outcome.games.length = 2 ∧ outcome.standings = .error (.plain "first") := by
  obtain ⟨outcome, hscheduled, hlength⟩ := Option.map_eq_some_iff.mp
    (show (scheduled 2 threeBots (.listed [⟨2, false, 3⟩])
        (fun n _ => some (.plain (if n = 0 then "first" else "later")))
        [.launch, .launch, .finish 1 none, .finish 0 none, .advance 1, .advance 1,
          .advance 1, .advance 0, .advance 0, .advance 0, .advance 0, .advance 0,
          .launch, .finish 0 (some 0), .advance 0, .advance 0]).map (·.games.length) =
            some 2 by
      decide +kernel)
  obtain ⟨-, hwhole, -⟩ := failing_report_stops_cleanly playable_threeBots.names
    playable_threeBots.compiled
    (show (Rounds.listed [⟨2, false, 3⟩]).flaw? = none by decide)
    (by decide) 2 fun n _ => some (.plain (if n = 0 then "first" else "later"))
  have hgame : outcome.games[0]? = some outcome.games[0] := List.getElem?_eq_getElem _
  obtain ⟨n, failure, hfirst, hstandings, -⟩ :=
    hwhole _ outcome hscheduled ⟨0, _, hgame, rfl⟩
  -- The very first report has failed, so no other is the first to fail.
  obtain rfl : n = 0 := by
    refine Nat.eq_zero_of_not_pos fun hpos => ?_
    cases hfirst.before 0 hpos _ hgame
  obtain ⟨game, -, hreport⟩ := hfirst.fails
  cases hreport
  exact ⟨outcome, hscheduled, hlength, hstandings⟩

end Whole

end Tournament

end TapeDuel
