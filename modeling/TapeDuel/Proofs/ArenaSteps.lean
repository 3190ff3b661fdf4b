import TapeDuel.Engine.Arena
import TapeDuel.Proofs.AgentTurns

/-!
# Steps of a round

A step of a round ends the round, or advances both bots on the same tape.
`Arena.advance_eq_ok_iff` opens the second case once and for all: what is read,
which turns are taken, which changes are made, and the round that comes of it.
Everything else about steps is derived from it.

`Arena.Within` is what holds along every round, for any property of bots that
turns keep: the tape keeps its length, the steps stay in their budget, a bot is
never farther off the tape than one cell, and stands on it while the round goes
on. Under it a step can fail only in a turn, so whether a round is safe is a
question about its two bots alone.
-/

namespace TapeDuel

/-- A chain of fallible parts comes through exactly when all of them do. -/
theorem bind_eq_ok_iff {ε α β : Type} {x : Except ε α} {f : α → Except ε β}
    {b : β} : (x >>= f) = .ok b ↔ ∃ a, x = .ok a ∧ f a = .ok b := by
  cases x with
  | error e =>
      constructor
      · intro h
        cases h
      · rintro ⟨a, h, -⟩
        cases h
  | ok a =>
      constructor
      · exact fun h => ⟨a, rfl, h⟩
      · rintro ⟨_, h, hf⟩
        cases h
        exact hf

/-! ## The tape -/

namespace Tape

theorem size_new (length : Nat) : (new length).size = length := by
  simp [new]

theorem isZero_ok_iff {t : Tape} {index : Int} :
    (∃ zero, t.isZero index = .ok zero) ↔ 0 ≤ index ∧ index < t.size := by
  by_cases hlo : 0 ≤ index
  · rcases Nat.lt_or_ge index.toNat t.size with hlt | hge
    · rw [isZero, cell, if_pos hlo, Array.getElem?_eq_getElem hlt]
      exact iff_of_true ⟨_, rfl⟩ ⟨hlo, by omega⟩
    · rw [isZero, cell, if_pos hlo, Array.getElem?_eq_none hge]
      refine iff_of_false ?_ (by omega)
      rintro ⟨zero, h⟩
      cases h
  · rw [isZero, cell, if_neg hlo]
    refine iff_of_false ?_ (by omega)
    rintro ⟨zero, h⟩
    cases h

theorem exists_flagZero {t : Tape} (h : 0 < t.size) (side : Side) :
    ∃ zero, t.flagZero side = .ok zero := by
  have hlt : t.flagIndex side < t.size := by
    cases side
    · exact h
    · exact Nat.sub_lt h Nat.one_pos
  exact ⟨_, by rw [flagZero, Array.getElem?_eq_getElem hlt]⟩

theorem size_of_apply {t t' : Tape} {m : Mutation} (h : t.apply m = .ok t') :
    t'.size = t.size := by
  rw [apply] at h
  split at h
  · cases h
    exact Array.size_modify
  · cases h

theorem exists_apply {t : Tape} {m : Mutation} (hlo : 0 ≤ m.index)
    (hhi : m.index < t.size) : ∃ t', t.apply m = .ok t' :=
  ⟨_, by rw [apply, if_pos ⟨hlo, by omega⟩]⟩

end Tape

namespace Arena

theorem size_of_applyTo {t t' : Tape} {change : Option Mutation}
    (h : applyTo t change = .ok t') : t'.size = t.size := by
  cases change with
  | none => cases h; rfl
  | some m => exact Tape.size_of_apply h

theorem exists_applyTo {t : Tape} {change : Option Mutation}
    (h : ∀ m, change = some m → 0 ≤ m.index ∧ m.index < t.size) :
    ∃ t', applyTo t change = .ok t' := by
  cases change with
  | none => exact ⟨t, rfl⟩
  | some m => exact Tape.exists_apply (h m rfl).1 (h m rfl).2

/-! ## One turn on the tape -/

/-- What a turn comes to: nothing for a bot that has ended, else one step of it
with what its cell tells. -/
theorem turn_eq_ok_iff {t : Tape} {a a' : Agent} {change : Option Mutation} :
    turn t a = .ok (a', change) ↔
      (a.ended = true ∧ a' = a ∧ change = none) ∨
      (a.ended = false ∧ ∃ zero, t.isZero a.position = .ok zero ∧
        a.step zero = .ok (a', change)) := by
  rw [turn]
  cases hend : a.ended with
  | true =>
      rw [if_pos rfl]
      constructor
      · intro h
        cases h
        exact .inl ⟨rfl, rfl, rfl⟩
      · rintro (⟨-, rfl, rfl⟩ | ⟨h, -⟩)
        · rfl
        · cases h
  | false =>
      rw [if_neg Bool.false_ne_true]
      cases hzero : t.isZero a.position with
      | error fault =>
          constructor
          · intro h
            cases h
          · rintro (⟨h, -⟩ | ⟨-, zero, h, -⟩) <;> cases h
      | ok zero =>
          constructor
          · exact fun h => .inr ⟨rfl, zero, rfl, h⟩
          · rintro (⟨h, -⟩ | ⟨-, _, h, hstep⟩)
            · cases h
            · cases h
              exact hstep

/-- On the tape a turn fails only as the bot itself does. -/
theorem turn_eq_error_iff {t : Tape} {a : Agent} {fault : Fault}
    (hlo : 0 ≤ a.position) (hhi : a.position < t.size) :
    turn t a = .error fault ↔
      a.ended = false ∧ ∃ zero, t.isZero a.position = .ok zero ∧
        a.step zero = .error fault := by
  obtain ⟨zero, hzero⟩ := Tape.isZero_ok_iff.mpr ⟨hlo, hhi⟩
  rw [turn, hzero]
  cases hend : a.ended with
  | true =>
      rw [if_pos rfl]
      refine iff_of_false (fun h => ?_) (fun h => ?_)
      · cases h
      · cases h.1
  | false =>
      rw [if_neg Bool.false_ne_true]
      refine ⟨fun h => ⟨rfl, zero, rfl, h⟩, ?_⟩
      rintro ⟨-, _, h, hstep⟩
      cases h
      exact hstep

/-- A turn changes nothing but the cell that the bot stands on. -/
theorem turn_change {t : Tape} {a a' : Agent} {m : Mutation}
    (h : turn t a = .ok (a', some m)) :
    m.index = a.position ∧ 0 ≤ m.index ∧ m.index < t.size := by
  rcases turn_eq_ok_iff.mp h with ⟨-, -, hnone⟩ | ⟨-, zero, hzero, hstep⟩
  · cases hnone
  · have hindex := Agent.step_change hstep
    have hon := Tape.isZero_ok_iff.mp ⟨zero, hzero⟩
    rw [hindex]
    exact ⟨rfl, hon⟩

/-- A bot on a tape that 64 bits can count is at most one cell off it after its
turn. -/
theorem turn_position {t : Tape} {a a' : Agent} {change : Option Mutation}
    (h : turn t a = .ok (a', change)) (hsize : t.size < 9223372036854775808)
    (hlo : -1 ≤ a.position) (hhi : a.position ≤ t.size) :
    -1 ≤ a'.position ∧ a'.position ≤ t.size := by
  rcases turn_eq_ok_iff.mp h with ⟨-, rfl, -⟩ | ⟨-, zero, hzero, hstep⟩
  · exact ⟨hlo, hhi⟩
  · obtain ⟨hon, hoff⟩ := Tape.isZero_ok_iff.mp ⟨zero, hzero⟩
    rcases Agent.step_position hstep with hpos | hpos | hpos
    · omega
    · rw [wrap64_eq_self (by omega) (by omega)] at hpos
      omega
    · rw [wrap64_eq_self (by omega) (by omega)] at hpos
      omega

/-! ## One step -/

/-- What one step of both bots reads, does and leaves. -/
theorem advance_eq_ok_iff {r r' : Arena} :
    r.advance = .ok r' ↔
      ∃ aWas bWas a aChange b bChange middle tape aIs bIs,
        r.tape.flagZero .a = .ok aWas ∧ r.tape.flagZero .b = .ok bWas ∧
        turn r.tape r.a = .ok (a, aChange) ∧
        turn r.tape r.b = .ok (b, bChange) ∧
        applyTo r.tape aChange = .ok middle ∧
        applyTo middle bChange = .ok tape ∧
        tape.flagZero .a = .ok aIs ∧ tape.flagZero .b = .ok bIs ∧
        r' =
          { tape, a, b, steps := r.steps + 1, maxSteps := r.maxSteps
            verdict := ⟨a.offTape tape.size || aWas && aIs,
              b.offTape tape.size || bWas && bIs⟩ } := by
  simp only [advance, bind_eq_ok_iff, Prod.exists, pure, Except.pure,
    Except.ok.injEq]
  constructor
  · rintro ⟨aWas, h₁, bWas, h₂, a, aChange, h₃, b, bChange, h₄, middle, h₅,
      tape, h₆, aIs, h₇, bIs, h₈, rfl⟩
    exact ⟨aWas, bWas, a, aChange, b, bChange, middle, tape, aIs, bIs, h₁, h₂,
      h₃, h₄, h₅, h₆, h₇, h₈, rfl⟩
  · rintro ⟨aWas, bWas, a, aChange, b, bChange, middle, tape, aIs, bIs, h₁, h₂,
      h₃, h₄, h₅, h₆, h₇, h₈, rfl⟩
    exact ⟨aWas, h₁, bWas, h₂, a, aChange, h₃, b, bChange, h₄, middle, h₅,
      tape, h₆, aIs, h₇, bIs, h₈, rfl⟩

theorem steps_of_advance {r r' : Arena} (h : r.advance = .ok r') :
    r'.steps = r.steps + 1 := by
  obtain ⟨_, _, _, _, _, _, _, _, _, _, -, -, -, -, -, -, -, -, rfl⟩ :=
    advance_eq_ok_iff.mp h
  rfl

theorem maxSteps_of_advance {r r' : Arena} (h : r.advance = .ok r') :
    r'.maxSteps = r.maxSteps := by
  obtain ⟨_, _, _, _, _, _, _, _, _, _, -, -, -, -, -, -, -, -, rfl⟩ :=
    advance_eq_ok_iff.mp h
  rfl

/-- With flags to look at and bots on the tape, advancing fails only in a
turn. -/
theorem advance_eq_error {r : Arena} {fault : Fault} (hsize : 0 < r.tape.size)
    (h : r.advance = .error fault) :
    turn r.tape r.a = .error fault ∨ turn r.tape r.b = .error fault := by
  obtain ⟨aWas, haWas⟩ := Tape.exists_flagZero hsize .a
  obtain ⟨bWas, hbWas⟩ := Tape.exists_flagZero hsize .b
  cases ha : turn r.tape r.a with
  | error fault' =>
      simp only [advance, haWas, hbWas, ha, bind, Except.bind] at h
      cases h
      exact .inl rfl
  | ok aTurn =>
      cases hb : turn r.tape r.b with
      | error fault' =>
          simp only [advance, haWas, hbWas, ha, hb, bind, Except.bind] at h
          cases h
          exact .inr rfl
      | ok bTurn =>
          -- Both turns are taken, so what is left to do cannot fail.
          exfalso
          obtain ⟨a, aChange⟩ := aTurn
          obtain ⟨b, bChange⟩ := bTurn
          obtain ⟨middle, hmiddle⟩ : ∃ middle, applyTo r.tape aChange = .ok middle :=
            exists_applyTo fun m hm => (turn_change (hm ▸ ha)).2
          have hsize₁ := size_of_applyTo hmiddle
          obtain ⟨tape, htape⟩ : ∃ tape, applyTo middle bChange = .ok tape :=
            exists_applyTo fun m hm => hsize₁ ▸ (turn_change (hm ▸ hb)).2
          have hsize₂ := size_of_applyTo htape
          obtain ⟨aIs, haIs⟩ := Tape.exists_flagZero (show 0 < tape.size by omega) .a
          obtain ⟨bIs, hbIs⟩ := Tape.exists_flagZero (show 0 < tape.size by omega) .b
          have hok := advance_eq_ok_iff.mpr ⟨aWas, bWas, a, aChange, b, bChange,
            middle, tape, aIs, bIs, haWas, hbWas, ha, hb, hmiddle, htape, haIs,
            hbIs, rfl⟩
          rw [h] at hok
          cases hok

end Arena

/-! ## What holds along a round -/

namespace RoundParams

theorem bounds_of_flaw? {params : RoundParams} (h : params.flaw? = none) :
    2 ≤ params.tapeLength.toInt ∧ 0 ≤ params.maxSteps.toInt := by
  rw [flaw?] at h
  split at h
  · cases h
  · next hlength =>
      split at h
      · cases h
      · next hsteps =>
          rw [Int64.lt_iff_toInt_lt] at hlength hsteps
          exact ⟨Int.not_lt.mp hlength, Int.not_lt.mp hsteps⟩

/-- The last cell can be counted in the register of the tape length. -/
theorem toInt_last {params : RoundParams} (h : params.flaw? = none) :
    (params.tapeLength - 1).toInt = params.tapeLength.toInt - 1 := by
  have := params.tapeLength.toInt_lt
  have := (bounds_of_flaw? h).1
  rw [Int64.toInt_sub]
  exact Int.bmod_eq_of_le (by simp; omega) (by simp; omega)

end RoundParams

namespace Arena

/-- A round of these parameters whose bots have the property `I`. -/
structure Within (I : Agent → Prop) (params : RoundParams) (r : Arena) : Prop where
  size : (r.tape.size : Int) = params.tapeLength.toInt
  budget : r.maxSteps = params.maxSteps.toInt
  steps_le : (r.steps : Int) ≤ r.maxSteps
  keptA : I r.a
  keptB : I r.b
  nearA : -1 ≤ r.a.position ∧ r.a.position ≤ r.tape.size
  nearB : -1 ≤ r.b.position ∧ r.b.position ≤ r.tape.size
  onTapeA : r.verdict.isFinished = false →
    0 ≤ r.a.position ∧ r.a.position < r.tape.size
  onTapeB : r.verdict.isFinished = false →
    0 ≤ r.b.position ∧ r.b.position < r.tape.size

/-- A tape has room for flags. -/
theorem Within.size_pos {I : Agent → Prop} {params : RoundParams} {r : Arena}
    (h : r.Within I params) (hparams : params.flaw? = none) :
    0 < r.tape.size := by
  have := (RoundParams.bounds_of_flaw? hparams).1
  have := h.size
  omega

/-- And 64 bits can count it. -/
theorem Within.size_lt {I : Agent → Prop} {params : RoundParams} {r : Arena}
    (h : r.Within I params) : r.tape.size < 9223372036854775808 := by
  have := params.tapeLength.toInt_lt
  have := h.size
  omega

theorem within_new {I : Agent → Prop} {params : RoundParams}
    (hparams : params.flaw? = none) {a b : Program}
    (ha : I (Agent.new a params.tapeLength .normal .normal))
    (hb : I (Agent.new b params.tapeLength .reversed params.polarityB)) :
    (Arena.new a b params).Within I params := by
  obtain ⟨hlength, hsteps⟩ := RoundParams.bounds_of_flaw? hparams
  have hsize : ((Arena.new a b params).tape.size : Int) =
      params.tapeLength.toInt := by
    rw [show (Arena.new a b params).tape =
      Tape.new params.tapeLength.toNatClampNeg from rfl, Tape.size_new]
    exact Int.toNat_of_nonneg (by omega)
  have hposA : (Arena.new a b params).a.position = 0 := rfl
  have hposB : (Arena.new a b params).b.position =
      params.tapeLength.toInt - 1 := RoundParams.toInt_last hparams
  refine ⟨hsize, rfl, ?_, ha, hb, ?_, ?_, fun _ => ?_, fun _ => ?_⟩
  · exact hsteps
  all_goals
    first | rw [hposA, hsize] | rw [hposB, hsize]
    omega

section Step

variable {I : Agent → Prop} {params : RoundParams} {r r' : Arena}

theorem kept_of_turn {t : Tape} {a a' : Agent} {change : Option Mutation}
    (hkeeps : ∀ a zero a' change, I a → a.step zero = .ok (a', change) → I a')
    (ha : I a) (h : turn t a = .ok (a', change)) : I a' := by
  rcases turn_eq_ok_iff.mp h with ⟨-, rfl, -⟩ | ⟨-, zero, -, hstep⟩
  · exact ha
  · exact hkeeps a zero a' change ha hstep

/-- A bot that has not lost is on the tape. -/
theorem onTape_of_not_offTape {a : Agent} {length : Int}
    (h : a.offTape length = false) : 0 ≤ a.position ∧ a.position < length := by
  rw [Agent.offTape, Bool.or_eq_false_iff, decide_eq_false_iff_not,
    decide_eq_false_iff_not] at h
  omega

theorem within_advance (h : r.Within I params)
    (hkeeps : ∀ a zero a' change, I a → a.step zero = .ok (a', change) → I a')
    (hleft : (r.steps : Int) < r.maxSteps) (hadv : r.advance = .ok r') :
    r'.Within I params := by
  obtain ⟨aWas, bWas, a, aChange, b, bChange, middle, tape, aIs, bIs, -, -, hta,
    htb, hmiddle, htape, -, -, rfl⟩ := advance_eq_ok_iff.mp hadv
  have hsize : tape.size = r.tape.size := by
    rw [size_of_applyTo htape, size_of_applyTo hmiddle]
  refine ⟨?_, h.budget, ?_, kept_of_turn hkeeps h.keptA hta,
    kept_of_turn hkeeps h.keptB htb, ?_, ?_, ?_, ?_⟩
  · show (tape.size : Int) = _
    rw [hsize]
    exact h.size
  · show ((r.steps + 1 : Nat) : Int) ≤ r.maxSteps
    omega
  · show -1 ≤ a.position ∧ a.position ≤ (tape.size : Int)
    rw [hsize]
    exact turn_position hta h.size_lt h.nearA.1 h.nearA.2
  · show -1 ≤ b.position ∧ b.position ≤ (tape.size : Int)
    rw [hsize]
    exact turn_position htb h.size_lt h.nearB.1 h.nearB.2
  · intro hgoing
    simp only [Verdict.isFinished, Bool.or_eq_false_iff] at hgoing
    exact onTape_of_not_offTape hgoing.1.1
  · intro hgoing
    simp only [Verdict.isFinished, Bool.or_eq_false_iff] at hgoing
    exact onTape_of_not_offTape hgoing.2.1

/-- A step finds the round finished, ends it, or advances it. -/
theorem step_cases (h : r.step = .ok r') :
    (r.verdict.isFinished = true ∧ r' = r) ∨
    (r.verdict.isFinished = false ∧
      (r.maxSteps ≤ r.steps ∨ r.inSink = .ok true) ∧
      r' = { r with verdict := .draw }) ∨
    (r.verdict.isFinished = false ∧ (r.steps : Int) < r.maxSteps ∧
      r.inSink = .ok false ∧ r.advance = .ok r') := by
  rw [step] at h
  split at h
  · next hfin =>
      cases h
      exact .inl ⟨hfin, rfl⟩
  · next hgoing =>
      have hgoing := eq_false_of_ne_true hgoing
      split at h
      · next hbudget =>
          cases h
          exact .inr (.inl ⟨hgoing, .inl hbudget, rfl⟩)
      · next hbudget =>
          split at h
          · cases h
          · next hsink =>
              cases h
              exact .inr (.inl ⟨hgoing, .inr hsink, rfl⟩)
          · next hsink =>
              exact .inr (.inr ⟨hgoing, Int.not_le.mp hbudget, hsink, h⟩)

theorem step_of_finished (h : r.verdict.isFinished = true) : r.step = .ok r := by
  rw [step, if_pos h]

theorem step_of_over (hgoing : r.verdict.isFinished = false)
    (hover : r.maxSteps ≤ r.steps ∨ r.inSink = .ok true) :
    r.step = .ok { r with verdict := .draw } := by
  rw [step, if_neg (ne_true_of_eq_false hgoing)]
  by_cases hbudget : r.maxSteps ≤ r.steps
  · rw [if_pos hbudget]
  · rw [if_neg hbudget, hover.resolve_left hbudget]

theorem step_of_advance (hgoing : r.verdict.isFinished = false)
    (hleft : (r.steps : Int) < r.maxSteps) (hsink : r.inSink = .ok false) :
    r.step = r.advance := by
  rw [step, if_neg (ne_true_of_eq_false hgoing), if_neg (Int.not_le.mpr hleft),
    hsink]

theorem within_step (h : r.Within I params)
    (hkeeps : ∀ a zero a' change, I a → a.step zero = .ok (a', change) → I a')
    (hstep : r.step = .ok r') : r'.Within I params := by
  rcases step_cases hstep with ⟨-, rfl⟩ | ⟨-, -, rfl⟩ | ⟨-, hleft, -, hadv⟩
  · exact h
  · exact ⟨h.size, h.budget, h.steps_le, h.keptA, h.keptB, h.nearA, h.nearB,
      fun hgoing => (by cases hgoing), fun hgoing => (by cases hgoing)⟩
  · exact within_advance h hkeeps hleft hadv

/-- Both flags can be read, so the test for a sink gives an answer. -/
theorem exists_inSink (hsize : 0 < r.tape.size) : ∃ sink, r.inSink = .ok sink := by
  obtain ⟨aZero, haZero⟩ := Tape.exists_flagZero hsize .a
  obtain ⟨bZero, hbZero⟩ := Tape.exists_flagZero hsize .b
  rw [inSink]
  split
  · exact ⟨!aZero && !bZero, by rw [haZero, hbZero]⟩
  · exact ⟨false, rfl⟩

/-- A bot that has not ended keeps the round out of a sink. -/
theorem inSink_eq_false (h : r.a.ended = false ∨ r.b.ended = false) :
    r.inSink = .ok false := by
  rw [inSink, if_neg]
  rcases h with ha | hb
  · rw [ha]
    exact Bool.false_ne_true
  · rw [hb, Bool.and_false]
    exact Bool.false_ne_true

/-- A step that fails does so in the turn of a bot that is still running, and
the fault is that of the bot. -/
theorem fault_of_step (h : r.Within I params) (hparams : params.flaw? = none)
    {fault : Fault} (hfault : r.step = .error fault) :
    r.verdict.isFinished = false ∧ (r.steps : Int) < r.maxSteps ∧
      ((r.a.ended = false ∧ ∃ zero, r.tape.isZero r.a.position = .ok zero ∧
          r.a.step zero = .error fault) ∨
        (r.b.ended = false ∧ ∃ zero, r.tape.isZero r.b.position = .ok zero ∧
          r.b.step zero = .error fault)) := by
  have hsize := h.size_pos hparams
  obtain ⟨sink, hsink⟩ := exists_inSink hsize
  rw [step] at hfault
  split at hfault
  · cases hfault
  · next hgoing =>
      have hgoing := eq_false_of_ne_true hgoing
      obtain ⟨haLo, haHi⟩ := h.onTapeA hgoing
      obtain ⟨hbLo, hbHi⟩ := h.onTapeB hgoing
      split at hfault
      · cases hfault
      · next hbudget =>
          refine ⟨hgoing, Int.not_le.mp hbudget, ?_⟩
          rw [hsink] at hfault
          cases sink
          · exact (advance_eq_error hsize hfault).imp
              (turn_eq_error_iff haLo haHi).mp (turn_eq_error_iff hbLo hbHi).mp
          · cases hfault

/-- A step fails exactly in the turn of a bot that is still running. -/
theorem step_error_iff (h : r.Within I params) (hparams : params.flaw? = none) :
    (∃ fault, r.step = .error fault) ↔
      r.verdict.isFinished = false ∧ (r.steps : Int) < r.maxSteps ∧
      ((r.a.ended = false ∧ ∃ zero, r.tape.isZero r.a.position = .ok zero ∧
          ∃ fault, r.a.step zero = .error fault) ∨
        (r.b.ended = false ∧ ∃ zero, r.tape.isZero r.b.position = .ok zero ∧
          ∃ fault, r.b.step zero = .error fault)) := by
  constructor
  · rintro ⟨fault, hfault⟩
    obtain ⟨hgoing, hbudget, ⟨hend, zero, hzero, hstep⟩ |
      ⟨hend, zero, hzero, hstep⟩⟩ := fault_of_step h hparams hfault
    · exact ⟨hgoing, hbudget, .inl ⟨hend, zero, hzero, fault, hstep⟩⟩
    · exact ⟨hgoing, hbudget, .inr ⟨hend, zero, hzero, fault, hstep⟩⟩
  · rintro ⟨hgoing, hbudget, hturn⟩
    obtain ⟨haLo, haHi⟩ := h.onTapeA hgoing
    obtain ⟨hbLo, hbHi⟩ := h.onTapeB hgoing
    have hsink : r.inSink = .ok false :=
      inSink_eq_false (hturn.imp And.left And.left)
    have hstep : r.step = r.advance := by
      rw [step, if_neg (by rw [hgoing]; exact Bool.false_ne_true),
        if_neg (Int.not_le.mpr hbudget), hsink]
    rw [hstep]
    cases hadv : r.advance with
    | error fault => exact ⟨fault, rfl⟩
    | ok r' =>
        obtain ⟨_, _, a, aChange, b, bChange, _, _, _, _, -, -, hta, htb, -⟩ :=
          advance_eq_ok_iff.mp hadv
        rcases hturn with ⟨hend, zero, hzero, fault, hstep⟩ |
          ⟨hend, zero, hzero, fault, hstep⟩
        · rw [(turn_eq_error_iff haLo haHi).mpr ⟨hend, zero, hzero, hstep⟩] at hta
          cases hta
        · rw [(turn_eq_error_iff hbLo hbHi).mpr ⟨hend, zero, hzero, hstep⟩] at htb
          cases htb

end Step

/-! ## Any number of steps -/

section Run

variable {I : Agent → Prop} {params : RoundParams}

theorem run_of_step {r r' : Arena} (h : r.step = .ok r') (n : Nat) :
    r.run (n + 1) = r'.run n := by
  rw [run, h]

/-- A run that comes through goes step by step. -/
theorem run_succ_eq_ok_iff {r r' : Arena} {n : Nat} :
    r.run (n + 1) = .ok r' ↔ ∃ r₁, r.step = .ok r₁ ∧ r₁.run n = .ok r' := by
  rw [run]
  cases h : r.step with
  | error fault =>
      refine iff_of_false (fun h => ?_) ?_
      · cases h
      · rintro ⟨r₁, h, -⟩
        cases h
  | ok r₁ =>
      refine ⟨fun h => ⟨r₁, rfl, h⟩, ?_⟩
      rintro ⟨_, h, hrun⟩
      cases h
      exact hrun

/-- A run fails exactly when one of its steps does. -/
theorem run_error_iff {r : Arena} {n : Nat} :
    (∃ fault, r.run n = .error fault) ↔
      ∃ m < n, ∃ r', r.run m = .ok r' ∧ ∃ fault, r'.step = .error fault := by
  induction n generalizing r with
  | zero =>
      refine iff_of_false ?_ ?_
      · rintro ⟨fault, h⟩
        cases h
      · rintro ⟨m, hm, -⟩
        exact absurd hm (Nat.not_lt_zero m)
  | succ n ih =>
      cases hstep : r.step with
      | error fault =>
          refine iff_of_true ⟨fault, by rw [run, hstep]⟩ ?_
          exact ⟨0, Nat.succ_pos n, r, rfl, fault, hstep⟩
      | ok r₁ =>
          rw [run_of_step hstep, ih]
          constructor
          · rintro ⟨m, hm, r', hrun, hfault⟩
            exact ⟨m + 1, by omega, r', by rw [run_of_step hstep, hrun], hfault⟩
          · rintro ⟨m, hm, r', hrun, hfault⟩
            match m with
            | 0 =>
                cases hrun
                obtain ⟨fault, hfault⟩ := hfault
                rw [hstep] at hfault
                cases hfault
            | m + 1 =>
                rw [run_of_step hstep] at hrun
                exact ⟨m, by omega, r', hrun, hfault⟩

theorem within_run
    (hkeeps : ∀ a zero a' change, I a → a.step zero = .ok (a', change) → I a')
    {n : Nat} : ∀ {r r' : Arena}, r.Within I params → r.run n = .ok r' →
      r'.Within I params := by
  induction n with
  | zero =>
      intro r r' h hrun
      cases hrun
      exact h
  | succ n ih =>
      intro r r' h hrun
      obtain ⟨r₁, hstep, hrun⟩ := run_succ_eq_ok_iff.mp hrun
      exact ih (within_step h hkeeps hstep) hrun

/-- A finished round stays as it is. -/
theorem run_of_finished {r : Arena} (h : r.verdict.isFinished = true) (n : Nat) :
    r.run n = .ok r := by
  induction n with
  | zero => rfl
  | succ n ih => rw [run_of_step (by rw [step, if_pos h]), ih]

/-- While a round goes on every step counts. -/
theorem steps_of_going {n : Nat} : ∀ {r r' : Arena}, r.run n = .ok r' →
    r'.verdict.isFinished = false → r'.steps = r.steps + n := by
  induction n with
  | zero =>
      intro r r' hrun _
      cases hrun
      rfl
  | succ n ih =>
      intro r r' hrun hgoing
      obtain ⟨r₁, hstep, hrun⟩ := run_succ_eq_ok_iff.mp hrun
      have hgoing₁ : r₁.verdict.isFinished = false := by
        by_contra hfin
        rw [run_of_finished (Bool.not_eq_false _ ▸ hfin)] at hrun
        cases hrun
        exact hfin hgoing
      have hrest := ih hrun hgoing
      rcases step_cases hstep with ⟨hfin, rfl⟩ | ⟨-, -, rfl⟩ | ⟨-, -, -, hadv⟩
      · rw [hfin] at hgoing₁
        cases hgoing₁
      · cases hgoing₁
      · rw [hrest, steps_of_advance hadv]
        omega

/-- If no bot can fail, no run fails. -/
theorem exists_run
    (hsafe : ∀ a zero, I a → ∃ a' change, a.step zero = .ok (a', change))
    (hkeeps : ∀ a zero a' change, I a → a.step zero = .ok (a', change) → I a')
    (hparams : params.flaw? = none) {r : Arena} (h : r.Within I params)
    (n : Nat) : ∃ r', r.run n = .ok r' := by
  cases hrun : r.run n with
  | ok r' => exact ⟨r', rfl⟩
  | error fault =>
      exfalso
      obtain ⟨m, -, r', hrun', hfault⟩ := run_error_iff.mp ⟨fault, hrun⟩
      have hwithin := within_run hkeeps h hrun'
      obtain ⟨-, -, ⟨-, zero, -, fault', hstep⟩ | ⟨-, zero, -, fault', hstep⟩⟩ :=
        (step_error_iff hwithin hparams).mp hfault
      · obtain ⟨a', change, hok⟩ := hsafe r'.a zero hwithin.keptA
        rw [hok] at hstep
        cases hstep
      · obtain ⟨b', change, hok⟩ := hsafe r'.b zero hwithin.keptB
        rw [hok] at hstep
        cases hstep

end Run

end Arena

end TapeDuel
