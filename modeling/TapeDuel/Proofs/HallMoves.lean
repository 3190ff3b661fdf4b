import TapeDuel.Match.Schedule
import TapeDuel.Proofs.Scores

/-!
# What can happen in a hall

An event of a tournament in which several games are played does one of nine things
(`Hall.Moves`). A game is launched, or launches are left out; a game is played to its
end, or fails; its result is entered and reported; a failed report is raised, and the
sheet given back; a failed game is raised; a game leaves. `Hall.step_eq_some_iff` says
that there is nothing else, whatever the programs, the rounds and the reports are.

Each of them brings the tournament nearer to its end (`Hall.toCome`), and until it is
over one of them is possible. So every tournament ends, however its games are scheduled
and whatever fails.
-/

namespace TapeDuel.Tournament

namespace Hall

/-! ## Seats -/

section Seats

variable {h : Hall} {before behind : List Seat} {seat : Seat} {P : Seat → Prop}

theorem exists_split {α : Type} {l : List α} {k : Nat} {x : α}
    (hx : l[k]? = some x) :
    ∃ before behind, l = before ++ x :: behind ∧ before.length = k := by
  obtain ⟨hk, rfl⟩ := List.getElem?_eq_some_iff.mp hx
  refine ⟨l.take k, l.drop (k + 1), ?_, List.length_take_of_le (Nat.le_of_lt hk)⟩
  rw [List.getElem_cons_drop, List.take_append_drop]

theorem eraseIdx_length_append {α : Type} (before behind : List α) (x : α) :
    (before ++ x :: behind).eraseIdx before.length = before ++ behind := by
  rw [List.eraseIdx_append_of_length_le (Nat.le_refl _), Nat.sub_self]
  rfl

theorem getElem?_seats (hseats : h.seats = before ++ seat :: behind) :
    h.seats[before.length]? = some seat := by
  rw [hseats]
  simp

theorem setStage_eq (hseats : h.seats = before ++ seat :: behind) (stage : Stage) :
    h.setStage before.length seat stage =
      { h with seats := before ++ ⟨seat.pairing, stage⟩ :: behind } := by
  rw [setStage, hseats]
  simp

theorem mem_seats (hseats : h.seats = before ++ seat :: behind) : seat ∈ h.seats := by
  rw [hseats]
  exact List.mem_append_right _ List.mem_cons_self

theorem forall_seats : (∀ s ∈ before ++ seat :: behind, P s) ↔
    (∀ s ∈ before, P s) ∧ P seat ∧ ∀ s ∈ behind, P s := by
  rw [List.forall_mem_append, List.forall_mem_cons]

theorem exists_seats : (∃ s ∈ before ++ seat :: behind, P s) ↔
    P seat ∨ ∃ s ∈ before ++ behind, P s := by
  simp only [List.mem_append, List.mem_cons]
  grind

end Seats

/-! ## Events -/

section Moves

variable (entries : Array Entry) (rounds : Rounds) (report : Report)

/-- What an event can do to the hall. -/
inductive Moves (h : Hall) : Event → Hall → Prop
  | launch {pairing : Nat × Nat} {rest : List (Nat × Nat)} {places : Semaphore}
      (hpending : h.pending = pairing :: rest)
      (hplaces : h.places.acquire? = some places) :
      Moves h .launch
        { h with
          pending := rest
          places
          seats := h.seats ++ [⟨pairing, .playing h.stopped.isSome⟩] }
  | skip {pairing : Nat × Nat} {rest : List (Nat × Nat)} {failure : Failure}
      (hpending : h.pending = pairing :: rest) (hstopped : h.stopped = some failure) :
      Moves h .skip { h with pending := h.pending.dropWhile (·.1 == pairing.1) }
  | play {before behind : List Seat} {pairing : Nat × Nat} {late : Bool} {a b : Entry}
      {answers : Option Nat} {result : GameResult}
      (hseats : h.seats = before ++ ⟨pairing, .playing late⟩ :: behind)
      (ha : entries[pairing.1]? = some a) (hb : entries[pairing.2]? = some b)
      (hanswers : h.canAnswer late answers = true)
      (hplay : Game.play (interrupts answers) a.program b.program rounds = .ok result) :
      Moves h (.finish before.length answers)
        { h with seats := before ++ ⟨pairing, .played result⟩ :: behind }
  | fail {before behind : List Seat} {pairing : Nat × Nat} {late : Bool} {a b : Entry}
      {answers : Option Nat} {failure : Failure}
      (hseats : h.seats = before ++ ⟨pairing, .playing late⟩ :: behind)
      (ha : entries[pairing.1]? = some a) (hb : entries[pairing.2]? = some b)
      (hanswers : h.canAnswer late answers = true)
      (hplay : Game.play (interrupts answers) a.program b.program rounds =
        .error failure) :
      Moves h (.finish before.length answers)
        { h with
          seats := before ++ ⟨pairing, .failed (gameFailure a b failure)⟩ :: behind }
  | enter {before behind : List Seat} {pairing : Nat × Nat} {result : GameResult}
      {a b : Entry} (hseats : h.seats = before ++ ⟨pairing, .played result⟩ :: behind)
      (ha : entries[pairing.1]? = some a) (hb : entries[pairing.2]? = some b)
      (hsheet : h.seats.any (·.stage.hasSheet) = false) :
      Moves h (.advance before.length)
        { h with
          seats := before ++ ⟨pairing,
            .entered (report h.sheet.reported.length ⟨a.name, b.name, result⟩)⟩ :: behind
          sheet := ⟨credit h.sheet.standings pairing.1 pairing.2 result,
            ⟨a.name, b.name, result⟩ :: h.sheet.reported⟩ }
  | raise {before behind : List Seat} {pairing : Nat × Nat} {failure : Failure}
      (hseats : h.seats = before ++ ⟨pairing, .entered (some failure)⟩ :: behind) :
      Moves h (.advance before.length)
        { h.raise failure with seats := before ++ ⟨pairing, .entered none⟩ :: behind }
  | unlock {before behind : List Seat} {pairing : Nat × Nat}
      (hseats : h.seats = before ++ ⟨pairing, .entered none⟩ :: behind) :
      Moves h (.advance before.length)
        { h with seats := before ++ ⟨pairing, .leaving⟩ :: behind }
  | giveUp {before behind : List Seat} {pairing : Nat × Nat} {failure : Failure}
      (hseats : h.seats = before ++ ⟨pairing, .failed failure⟩ :: behind) :
      Moves h (.advance before.length)
        { h.raise failure with seats := before ++ ⟨pairing, .leaving⟩ :: behind }
  | leave {before behind : List Seat} {pairing : Nat × Nat} {places : Semaphore}
      (hseats : h.seats = before ++ ⟨pairing, .leaving⟩ :: behind)
      (hplaces : h.places.release? = some places) :
      Moves h (.advance before.length) { h with places, seats := before ++ behind }

end Moves

variable {entries : Array Entry} {rounds : Rounds} {report : Report} {h h' : Hall}
  {event : Event}

/-! ## There is nothing else -/

theorem moves_finish {k : Nat} {answers : Option Nat}
    (hstep : h.finish? entries rounds k answers = some h') :
    h.Moves entries rounds report (.finish k answers) h' := by
  rw [finish?] at hstep
  split at hstep
  · next seat hseat =>
      obtain ⟨before, behind, hseats, rfl⟩ := exists_split hseat
      obtain ⟨pairing, stage⟩ := seat
      split at hstep
      · next late a b hstage ha hb =>
          cases hstage
          split at hstep
          · next hanswers =>
              split at hstep
              · next result hplay =>
                  cases hstep
                  rw [setStage_eq hseats]
                  exact .play hseats ha hb hanswers hplay
              · next failure hplay =>
                  cases hstep
                  rw [setStage_eq hseats]
                  exact .fail hseats ha hb hanswers hplay
          · cases hstep
      · cases hstep
  · cases hstep

theorem moves_advance {k : Nat} (hstep : h.advance? entries report k = some h') :
    h.Moves entries rounds report (.advance k) h' := by
  rw [advance?] at hstep
  split at hstep
  · next seat hseat =>
      obtain ⟨before, behind, hseats, rfl⟩ := exists_split hseat
      obtain ⟨pairing, stage⟩ := seat
      cases stage with
      | playing late => cases hstep
      | played result =>
          dsimp only [enter?] at hstep
          split at hstep
          · next a b hsheet ha hb =>
              cases hstep
              rw [setStage_eq hseats]
              exact .enter hseats ha hb hsheet
          · cases hstep
      | entered failure =>
          cases failure with
          | none =>
              cases hstep
              rw [setStage_eq hseats]
              exact .unlock hseats
          | some failure =>
              cases hstep
              rw [setStage_eq (h := h.raise failure) hseats]
              exact .raise hseats
      | failed failure =>
          cases hstep
          rw [setStage_eq (h := h.raise failure) hseats]
          exact .giveUp hseats
      | leaving =>
          dsimp only at hstep
          split at hstep
          · next places hplaces =>
              cases hstep
              rw [hseats, eraseIdx_length_append]
              exact .leave hseats hplaces
          · cases hstep
  · cases hstep

theorem moves_of_step (hstep : h.step entries rounds report event = some h') :
    h.Moves entries rounds report event h' := by
  cases event with
  | launch =>
      rw [step, launch?] at hstep
      split at hstep
      · next hpending hplaces =>
          cases hstep
          exact .launch hpending hplaces
      · cases hstep
  | skip =>
      rw [step, skip?] at hstep
      split at hstep
      · next hpending hstopped =>
          cases hstep
          exact .skip hpending hstopped
      · cases hstep
  | finish k answers => exact moves_finish hstep
  | advance k => exact moves_advance hstep

theorem Moves.step (hm : h.Moves entries rounds report event h') :
    h.step entries rounds report event = some h' := by
  cases hm with
  | launch hpending hplaces => rw [Hall.step, launch?, hpending, hplaces]
  | skip hpending hstopped =>
      rw [Hall.step, skip?, hpending, hstopped]
  | play hseats ha hb hanswers hplay | fail hseats ha hb hanswers hplay =>
      rw [Hall.step, finish?, getElem?_seats hseats]
      dsimp only
      rw [ha, hb]
      dsimp only
      rw [if_pos hanswers, hplay]
      exact congrArg some (setStage_eq hseats _)
  | enter hseats ha hb hsheet =>
      rw [Hall.step, advance?, getElem?_seats hseats]
      dsimp only [enter?]
      rw [hsheet, ha, hb]
      dsimp only
      rw [setStage_eq hseats]
  | raise hseats | giveUp hseats =>
      rw [Hall.step, advance?, getElem?_seats hseats]
      exact congrArg some (setStage_eq (h := h.raise _) hseats _)
  | unlock hseats =>
      rw [Hall.step, advance?, getElem?_seats hseats]
      exact congrArg some (setStage_eq hseats _)
  | leave hseats hplaces =>
      rw [Hall.step, advance?, getElem?_seats hseats]
      dsimp only
      rw [hplaces, hseats, eraseIdx_length_append]

theorem step_eq_some_iff : h.step entries rounds report event = some h' ↔
    h.Moves entries rounds report event h' :=
  ⟨moves_of_step, Moves.step⟩

theorem run_append {events more : List Event}
    (hrun : h.run entries rounds report events = some h') :
    h.run entries rounds report (events ++ more) =
      h'.run entries rounds report more := by
  induction events generalizing h with
  | nil =>
      cases hrun
      rfl
  | cons event events ih =>
      rw [run] at hrun
      rw [List.cons_append, run]
      split at hrun
      · exact ih hrun
      · cases hrun

/-- What every event keeps is kept by any number of them. -/
theorem run_keeps {P : Hall → Prop}
    (hstep : ∀ h event h', P h → h.Moves entries rounds report event h' → P h')
    {events : List Event} (hh : P h)
    (hrun : h.run entries rounds report events = some h') : P h' := by
  induction events generalizing h with
  | nil =>
      cases hrun
      exact hh
  | cons event events ih =>
      rw [run] at hrun
      split at hrun
      · next next hnext =>
            exact ih (hstep h event next hh (step_eq_some_iff.mp hnext)) hrun
      · cases hrun

/-! ## What every event keeps -/

@[simp] theorem pending_raise (h : Hall) (failure : Failure) :
    (h.raise failure).pending = h.pending :=
  rfl

@[simp] theorem sheet_raise (h : Hall) (failure : Failure) :
    (h.raise failure).sheet = h.sheet :=
  rfl

theorem stopped_raise_ne_none (h : Hall) (failure : Failure) :
    (h.raise failure).stopped ≠ none := by
  cases hstopped : h.stopped <;> simp [raise, hstopped]

theorem capacity_acquire? {s t : Semaphore} (e : s.acquire? = some t) :
    t.capacity = s.capacity := by
  rw [Semaphore.acquire?] at e
  split at e
  · cases e
    rfl
  · cases e

theorem capacity_release? {s t : Semaphore} (e : s.release? = some t) :
    t.capacity = s.capacity := by
  rw [Semaphore.release?] at e
  split at e
  · cases e
    rfl
  · cases e

theorem Moves.seated (hm : h.Moves entries rounds report event h') (hs : h.Seated) :
    h'.Seated :=
  seated_step hs hm.step

theorem Moves.capacity_eq (hm : h.Moves entries rounds report event h') :
    h'.places.capacity = h.places.capacity := by
  cases hm with
  | launch _ hplaces => exact capacity_acquire? hplaces
  | leave _ hplaces => exact capacity_release? hplaces
  | skip | play | fail | enter | raise | unlock | giveUp => rfl

/-- Only games that were to be launched get a seat. -/
theorem Moves.booked_subset (hm : h.Moves entries rounds report event h') :
    h'.pending ++ h'.seats.map Seat.pairing ⊆ h.pending ++ h.seats.map Seat.pairing := by
  cases hm with
  | launch hpending =>
      rw [hpending]
      intro p hp
      simp only [List.map_append, List.map_cons, List.map_nil, List.mem_append,
        List.mem_cons] at hp ⊢
      tauto
  | skip =>
      intro p hp
      exact List.mem_append.mpr ((List.mem_append.mp hp).imp_left fun hmem =>
        (List.dropWhile_suffix _).subset hmem)
  | play hseats | fail hseats | enter hseats | raise hseats | unlock hseats
  | giveUp hseats =>
      rw [hseats, List.map_append, List.map_append, List.map_cons, List.map_cons]
      exact List.Subset.refl _
  | leave hseats =>
      rw [hseats]
      intro p hp
      simp only [List.map_append, List.map_cons, List.mem_append, List.mem_cons] at hp ⊢
      tauto

/-- A hall that was stopped stays so. -/
theorem Moves.going (hm : h.Moves entries rounds report event h')
    (hgoing : h'.stopped = none) : h.stopped = none := by
  cases hm with
  | raise | giveUp => exact absurd hgoing (stopped_raise_ne_none h _)
  | launch | skip | play | fail | enter | unlock | leave => exact hgoing

/-- A game is told nothing as long as the hall is not stopped. -/
theorem answers_eq_none {late : Bool} {answers : Option Nat} (hgoing : h.stopped = none)
    (hanswers : h.canAnswer late answers = true) : answers = none := by
  rw [canAnswer, hgoing] at hanswers
  exact Option.isNone_iff_eq_none.mp hanswers

end Hall

/-! ## The end comes nearer -/

/-- The events that a game has still to come, at most. -/
def Stage.toCome : Stage → Nat
  | playing _ => 5
  | played _ => 4
  | entered (some _) => 3
  | entered none => 2
  | failed _ => 2
  | leaving => 1

namespace Hall

/-- The events that are still to come, at most. -/
def toCome (h : Hall) : Nat :=
  6 * h.pending.length + (h.seats.map (·.stage.toCome)).sum

section Step

variable {entries : Array Entry} {rounds : Rounds} {report : Report} {h h' : Hall}
  {event : Event}

theorem toCome_eq {before behind : List Seat} {pairing : Nat × Nat} {stage : Stage}
    (hseats : h.seats = before ++ ⟨pairing, stage⟩ :: behind) :
    h.toCome = 6 * h.pending.length + ((before.map (·.stage.toCome)).sum +
      (stage.toCome + (behind.map (·.stage.toCome)).sum)) := by
  rw [toCome, hseats, List.map_append, List.sum_append, List.map_cons, List.sum_cons]

theorem Moves.toCome_lt (hm : h.Moves entries rounds report event h') :
    h'.toCome < h.toCome := by
  cases hm with
  | launch hpending =>
      simp only [toCome, hpending, List.length_cons, List.map_append, List.sum_append,
        List.map_cons, List.map_nil, List.sum_cons, List.sum_nil, Stage.toCome]
      omega
  | @skip pairing rest failure hpending =>
      have hshort := (List.dropWhile_suffix (l := rest) (·.1 == pairing.1)).length_le
      have hfirst : h.pending.dropWhile (·.1 == pairing.1) =
          rest.dropWhile (·.1 == pairing.1) := by
        rw [hpending, List.dropWhile_cons_of_pos (by exact beq_self_eq_true pairing.1)]
      simp only [toCome, hfirst]
      rw [hpending, List.length_cons]
      omega
  | @enter _ _ _ _ a b hseats =>
      rw [toCome_eq hseats, toCome_eq rfl]
      cases report h.sheet.reported.length ⟨a.name, b.name, _⟩ <;>
        simp only [Stage.toCome] <;> omega
  | play hseats | fail hseats | raise hseats | unlock hseats | giveUp hseats =>
      rw [toCome_eq hseats, toCome_eq rfl]
      simp only [Stage.toCome, pending_raise]
      omega
  | leave hseats =>
      rw [toCome_eq hseats, toCome]
      simp only [List.map_append, List.sum_append, Stage.toCome]
      omega

/-- There are not more events than were to come. -/
theorem toCome_run {events : List Event}
    (hrun : h.run entries rounds report events = some h') :
    h'.toCome + events.length ≤ h.toCome := by
  induction events generalizing h with
  | nil =>
      cases hrun
      exact Nat.le_refl _
  | cons event events ih =>
      rw [run] at hrun
      split at hrun
      · next next hnext =>
          have hlt := (step_eq_some_iff.mp hnext).toCome_lt
          have hle := ih hrun
          rw [List.length_cons]
          omega
      · cases hrun

end Step

/-! ## Until it is over -/

section Going

variable {entries : Array Entry} {h : Hall}

theorem isOver_iff : h.isOver = true ↔ h.pending = [] ∧ h.seats = [] := by
  rw [isOver, Bool.and_eq_true, List.isEmpty_iff, List.isEmpty_iff]

/-- A game that is played can be over. -/
theorem exists_moves_finish (rounds : Rounds) (report : Report)
    {before behind : List Seat} {pairing : Nat × Nat} {late : Bool} {a b : Entry}
    (hseats : h.seats = before ++ ⟨pairing, .playing late⟩ :: behind)
    (ha : entries[pairing.1]? = some a) (hb : entries[pairing.2]? = some b) :
    ∃ event h', h.Moves entries rounds report event h' := by
  obtain ⟨answers, hanswers⟩ : ∃ answers, h.canAnswer late answers = true := by
    cases hstopped : h.stopped with
    | none => exact ⟨none, by simp [canAnswer, hstopped]⟩
    | some failure => exact ⟨some 0, by simp [canAnswer, hstopped]⟩
  cases hplay : Game.play (interrupts answers) a.program b.program rounds with
  | ok result => exact ⟨_, _, .play hseats ha hb hanswers hplay⟩
  | error failure => exact ⟨_, _, .fail hseats ha hb hanswers hplay⟩

/-- As long as the tournament is not over something can happen. -/
theorem exists_moves (rounds : Rounds) (report : Report) (hseated : h.Seated)
    (hcapacity : 0 < h.places.capacity)
    (hplayers : ∀ seat ∈ h.seats, ∃ a b,
      entries[seat.pairing.1]? = some a ∧ entries[seat.pairing.2]? = some b)
    (hgoing : h.isOver = false) :
    ∃ event h', h.Moves entries rounds report event h' := by
  rw [Seated] at hseated
  cases hsheet : h.seats.any (·.stage.hasSheet) with
  | true =>
      -- Whoever has the sheet raises what is to be raised, and gives it back.
      obtain ⟨⟨pairing, stage⟩, hmem, hhas⟩ := List.any_eq_true.mp hsheet
      obtain ⟨before, behind, hseats⟩ := List.append_of_mem hmem
      cases stage with
      | entered failure =>
          cases failure with
          | none => exact ⟨_, _, .unlock hseats⟩
          | some failure => exact ⟨_, _, .raise hseats⟩
      | playing | played | failed | leaving => cases hhas
  | false =>
      cases hseats : h.seats with
      | nil =>
          -- The hall is empty, so there is a free place for the next game.
          cases hpending : h.pending with
          | nil =>
              rw [isOver, hpending, hseats] at hgoing
              cases hgoing
          | cons pairing rest =>
              have hfree : h.places.held < h.places.capacity := by
                rw [hseated, hseats]
                exact hcapacity
              exact ⟨_, _, .launch hpending (by rw [Semaphore.acquire?, dif_pos hfree])⟩
      | cons seat behind =>
          -- Nobody has it, so whoever sits first is kept waiting by none.
          obtain ⟨pairing, stage⟩ := seat
          have hseats : h.seats = [] ++ ⟨pairing, stage⟩ :: behind := hseats
          obtain ⟨a, b, ha, hb⟩ := hplayers _ (mem_seats hseats)
          cases stage with
          | playing late => exact exists_moves_finish rounds report hseats ha hb
          | played result => exact ⟨_, _, .enter hseats ha hb hsheet⟩
          | entered failure =>
              rw [hseats] at hsheet
              cases hsheet
          | failed failure => exact ⟨_, _, .giveUp hseats⟩
          | leaving =>
              have hheld : 0 < h.places.held := by
                rw [hseated, hseats]
                exact Nat.succ_pos _
              exact ⟨_, _, .leave hseats (by rw [Semaphore.release?, if_pos hheld])⟩

end Going

/-- What holds of a hall at all times, whatever happens in it. -/
structure Kept (entries : List Entry) (capacity : Nat) (h : Hall) : Prop where
  seated : h.Seated
  capacity : h.places.capacity = capacity
  booked : ∀ pairing ∈ h.pending ++ h.seats.map Seat.pairing,
    pairing ∈ pairings entries.length

section Kept

variable {entries : List Entry} {rounds : Rounds} {report : Report} {capacity : Nat}
  {h h' : Hall} {event : Event}

theorem kept_opening (entries : List Entry) (parallelism : Int) :
    (opening entries parallelism).Kept entries (max 1 parallelism.toNat) where
  seated := seated_opening entries parallelism
  capacity := rfl
  booked pairing hmem := by simpa [opening] using hmem

/-- There are no more games in progress than places. -/
theorem Kept.length_seats_le (hk : h.Kept entries capacity) :
    h.seats.length ≤ capacity := by
  have hseated : h.places.held = h.seats.length := hk.seated
  rw [← hseated, ← hk.capacity]
  exact h.places.held_le

theorem Kept.mem_pairings (hk : h.Kept entries capacity) {seat : Seat}
    (hmem : seat ∈ h.seats) : seat.pairing ∈ pairings entries.length :=
  hk.booked seat.pairing (List.mem_append_right _ (List.mem_map_of_mem hmem))

/-- The players of a pair are among the entries. -/
theorem exists_players {pairing : Nat × Nat} (hmem : pairing ∈ pairings entries.length) :
    ∃ a b, entries.toArray[pairing.1]? = some a ∧
      entries.toArray[pairing.2]? = some b := by
  obtain ⟨hlt, hj⟩ := Tournament.mem_pairings.mp hmem
  have hi : pairing.1 < entries.length := Nat.lt_trans hlt hj
  exact ⟨entries[pairing.1], entries[pairing.2], by simp [hi], by simp [hj]⟩

theorem Kept.step (hk : h.Kept entries capacity)
    (hm : h.Moves entries.toArray rounds report event h') :
    h'.Kept entries capacity where
  seated := hm.seated hk.seated
  capacity := hm.capacity_eq.trans hk.capacity
  booked pairing hmem := hk.booked pairing (hm.booked_subset hmem)

theorem Kept.exists_moves (rounds : Rounds) (report : Report)
    (hk : h.Kept entries capacity) (hcapacity : 0 < capacity)
    (hgoing : h.isOver = false) :
    ∃ event h', h.Moves entries.toArray rounds report event h' := by
  refine Hall.exists_moves rounds report hk.seated ?_ (fun seat hmem => ?_) hgoing
  · rwa [hk.capacity]
  · exact exists_players (hk.mem_pairings hmem)

theorem Kept.run {events : List Event} (hk : h.Kept entries capacity)
    (hrun : h.run entries.toArray rounds report events = some h') :
    h'.Kept entries capacity :=
  run_keeps (fun _ _ _ hk hm => hk.step hm) hk hrun

/-- A tournament that has begun can be brought to its end, whatever fails. -/
theorem Kept.exists_over (rounds : Rounds) (report : Report)
    (hk : h.Kept entries capacity) (hcapacity : 0 < capacity) :
    ∃ events h', h.run entries.toArray rounds report events = some h' ∧
      h'.isOver = true := by
  induction hleft : h.toCome using Nat.strongRecOn generalizing h with
  | _ left ih =>
      cases hover : h.isOver with
      | true => exact ⟨[], h, rfl, hover⟩
      | false =>
          obtain ⟨event, h', hm⟩ := hk.exists_moves rounds report hcapacity hover
          obtain ⟨events, h'', hrun, hover'⟩ :=
            ih _ (hleft ▸ hm.toCome_lt) (hk.step hm) rfl
          refine ⟨event :: events, h'', ?_, hover'⟩
          rw [Hall.run, step_eq_some_iff.mpr hm]
          exact hrun

end Kept

end Hall

end TapeDuel.Tournament
