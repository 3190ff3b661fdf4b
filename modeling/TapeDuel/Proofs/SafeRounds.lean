import Mathlib
import TapeDuel.Match.Round
import TapeDuel.Proofs.ArenaSteps
import TapeDuel.Proofs.Layout

/-!
# Rounds that never fail

A bot of a sound program takes every turn it is given, so a round between two
of them comes through any number of steps. It is over one step after its
budget at the latest, and then it stays as it is.

Playing a round is stepping it as often as that, with questions in between.
`Round.proceed_of_run` and `Round.follow_of_run` reduce the two ways of playing
to a run: what a player reports is the verdict at the end of the run, unless
somebody stopped it. Compiled programs are sound, and the last theorem collects
what follows for them.
-/

namespace TapeDuel

namespace Agent

/-- A bot that takes every turn: it is sound, wherever its pointer stands. -/
def Safe (a : Agent) : Prop :=
  ∃ k, a.Sound k

theorem safe_new {p : Program} (hp : p.Sound) (length : Int64)
    (orientation : Orientation) (polarity : Polarity) :
    (Agent.new p length orientation polarity).Safe :=
  ⟨0, sound_new hp length orientation polarity⟩

theorem Safe.exists_step {a : Agent} (ha : a.Safe) (zero : Bool) :
    ∃ a' change, a.step zero = .ok (a', change) := by
  obtain ⟨k, hk⟩ := ha
  obtain ⟨a', change, -, hstep, -⟩ := hk.step zero
  exact ⟨a', change, hstep⟩

theorem Safe.step {a a' : Agent} (ha : a.Safe) {zero : Bool}
    {change : Option Mutation} (h : a.step zero = .ok (a', change)) :
    a'.Safe := by
  obtain ⟨k, hk⟩ := ha
  obtain ⟨a₁, change₁, k', hstep, hk'⟩ := hk.step zero
  rw [hstep] at h
  cases h
  exact ⟨k', hk'⟩

/-- What the engine relies on without looking: the table of inert loops covers
the program, the pointer is in the program or right behind it, and there is
one counter for each counted loop around it. -/
structure InRange (a : Agent) : Prop where
  inert : a.inert.size = a.program.size
  pointer_nonneg : 0 ≤ a.pointer
  pointer_le : a.pointer ≤ a.program.size
  counters : a.counters.length = (a.program.around a.pointer.toNat).length

theorem Safe.inRange {a : Agent} (ha : a.Safe) : a.InRange := by
  obtain ⟨k, hk⟩ := ha
  have hle := hk.le
  have hpointer := hk.pointer
  refine ⟨?_, by omega, by omega, ?_⟩
  · rw [hk.inert, Program.size_inert hk.program]
  · rw [hpointer, Int.toNat_natCast]
    exact hk.balanced.2.length_eq

end Agent

/-! ## Any number of steps -/

namespace Arena

theorem within_new_of_sound {a b : Program} (ha : a.Sound) (hb : b.Sound)
    {params : RoundParams} (hparams : params.flaw? = none) :
    (Arena.new a b params).Within Agent.Safe params :=
  within_new hparams (Agent.safe_new ha _ _ _) (Agent.safe_new hb _ _ _)

theorem Within.exists_run_of_safe {r : Arena} {params : RoundParams}
    (h : r.Within Agent.Safe params) (hparams : params.flaw? = none) (n : Nat) :
    ∃ r', r.run n = .ok r' ∧ r'.Within Agent.Safe params := by
  obtain ⟨r', hrun⟩ := exists_run (fun a zero ha => ha.exists_step zero)
    (fun a zero a' change ha hstep => ha.step hstep) hparams h n
  exact ⟨r', hrun,
    within_run (fun a zero a' change ha hstep => ha.step hstep) h hrun⟩

/-- A round is over once it was stepped more often than its budget allows. -/
theorem finished_of_budget {I : Agent → Prop} {params : RoundParams}
    {r r' : Arena} {n : Nat} (h : r'.Within I params) (hrun : r.run n = .ok r')
    (hn : r'.maxSteps < r.steps + n) : r'.verdict.isFinished = true := by
  by_contra hgoing
  have hsteps := steps_of_going hrun (eq_false_of_ne_true hgoing)
  have := h.steps_le
  omega

end Arena

/-! ## Playing a round to its end -/

namespace Round

/-- A round whose run comes to an end is played to that end, unless somebody
says stop. -/
theorem proceed_of_run (interrupts : Interrupts) {r' : Arena} {fuel : Nat} :
    ∀ {r : Arena} {done asked : Nat}, 0 < fuel → r.run fuel = .ok r' →
      r'.verdict.isFinished = true →
      (proceed interrupts fuel r done asked).1 = .finished r'.verdict r'.steps ∨
      (∃ n, interrupts n = true) ∧
        ∃ steps, (proceed interrupts fuel r done asked).1 = .canceled steps := by
  induction fuel with
  | zero =>
      intro r done asked hfuel
      exact absurd hfuel (Nat.lt_irrefl 0)
  | succ fuel ih =>
      intro r done asked _ hrun hfin
      obtain ⟨r₁, hstep, hrest⟩ := Arena.run_succ_eq_ok_iff.mp hrun
      rw [proceed]
      simp only [hstep]
      split
      · next hfin₁ =>
          rw [Arena.run_of_finished hfin₁] at hrest
          cases hrest
          exact .inl rfl
      · next hgoing =>
          -- The run ends later, so it has steps left.
          have hfuel : 0 < fuel := by
            rcases Nat.eq_zero_or_pos fuel with rfl | hpos
            · cases hrest
              exact absurd hfin hgoing
            · exact hpos
          split
          · split
            · next hstop => exact .inr ⟨⟨asked, hstop⟩, _, rfl⟩
            · exact ih hfuel hrest hfin
          · exact ih hfuel hrest hfin

/-- Taking notes changes nothing. -/
theorem follow_of_run {ν : Type} (note : Arena → Option ν) {r' : Arena}
    {fuel : Nat} : ∀ {r : Arena} {notes : List ν}, 0 < fuel →
      r.run fuel = .ok r' → r'.verdict.isFinished = true →
      (follow note fuel r notes).1 = .ok r' := by
  induction fuel with
  | zero =>
      intro r notes hfuel
      exact absurd hfuel (Nat.lt_irrefl 0)
  | succ fuel ih =>
      intro r notes _ hrun hfin
      obtain ⟨r₁, hstep, hrest⟩ := Arena.run_succ_eq_ok_iff.mp hrun
      rw [follow]
      simp only [hstep]
      split
      · next hfin₁ =>
          rw [Arena.run_of_finished hfin₁] at hrest
          cases hrest
          rfl
      · next hgoing =>
          refine ih ?_ hrest hfin
          rcases Nat.eq_zero_or_pos fuel with rfl | hpos
          · cases hrest
            exact absurd hfin hgoing
          · exact hpos

section Start

variable {params : RoundParams}

theorem start_eq_new (hparams : params.flaw? = none)
    (hroom : params.hasRoom = true) (a b : Program) :
    start a b params = .ok (.ok (Arena.new a b params)) := by
  rw [start, hparams, if_pos hroom]

theorem play_of_flaw {flaw : RoundParams.Flaw} (hflaw : params.flaw? = some flaw)
    (interrupts : Interrupts) (asked : Nat) (a b : Program) :
    play interrupts asked a b params = .error flaw := by
  rw [play, start, hflaw]

theorem play_of_no_room (hparams : params.flaw? = none) (hroom : params.hasRoom = false)
    (interrupts : Interrupts) (asked : Nat) (a b : Program) :
    play interrupts asked a b params = .ok (.faulted .noRoom 0, asked) := by
  rw [play, start, hparams, hroom]
  rfl

/-- A round that has room is stepped on from its first state. -/
theorem play_eq_proceed (hparams : params.flaw? = none)
    (hroom : params.hasRoom = true) (interrupts : Interrupts) (asked : Nat)
    (a b : Program) :
    play interrupts asked a b params =
      .ok (proceed interrupts (params.maxSteps.toNatClampNeg + 1)
        (Arena.new a b params) 0 asked) := by
  rw [play, start_eq_new hparams hroom]

theorem watch_eq_follow {ν : Type} (hparams : params.flaw? = none)
    (hroom : params.hasRoom = true) (note : Arena → Option ν) (a b : Program) :
    watch note a b params =
      .ok (follow note (params.maxSteps.toNatClampNeg + 1)
        (Arena.new a b params) []) := by
  rw [watch, start_eq_new hparams hroom]

end Start

/-- One step more than the budget brings a safe round to its end. -/
theorem exists_final {a b : Program} (ha : a.Sound) (hb : b.Sound)
    {params : RoundParams} (hparams : params.flaw? = none) :
    ∃ r, (Arena.new a b params).run (params.maxSteps.toNatClampNeg + 1) = .ok r ∧
      r.verdict.isFinished = true := by
  obtain ⟨r, hrun, hwithin⟩ :=
    (Arena.within_new_of_sound ha hb hparams).exists_run_of_safe hparams
      (params.maxSteps.toNatClampNeg + 1)
  refine ⟨r, hrun, Arena.finished_of_budget hwithin hrun ?_⟩
  have hclamp : (params.maxSteps.toNatClampNeg : Int) = params.maxSteps.toInt :=
    Int.toNat_of_nonneg (RoundParams.bounds_of_flaw? hparams).2
  rw [hwithin.budget, ← hclamp]
  show _ < ((0 : Nat) : Int) + _
  omega

end Round

/-! ## Compiled bots -/

/-- A round of two compiled bots comes through every number of steps. Nothing
is indexed out of range on the way; both bots stand on the tape while the round
goes on and are never farther off it than one cell; the steps keep to their
budget; and a round is over one step after it, for good. -/
theorem compiled_bots_run_safely {sa sb : Source} {a b : Program}
    {params : RoundParams} (ha : sa.compile = .ok a) (hb : sb.compile = .ok b)
    (hparams : params.flaw? = none) (n : Nat) :
    ∃ r, (Arena.new a b params).run n = .ok r ∧
      (r.tape.size : Int) = params.tapeLength.toInt ∧
      r.a.InRange ∧ r.b.InRange ∧
      (r.verdict.isOngoing = true →
        (0 ≤ r.a.position ∧ r.a.position < params.tapeLength.toInt) ∧
        0 ≤ r.b.position ∧ r.b.position < params.tapeLength.toInt) ∧
      (-1 ≤ r.a.position ∧ r.a.position ≤ params.tapeLength.toInt) ∧
      (-1 ≤ r.b.position ∧ r.b.position ≤ params.tapeLength.toInt) ∧
      (r.steps : Int) ≤ params.maxSteps.toInt ∧
      (params.maxSteps.toInt + 1 ≤ n → r.verdict.isFinished = true) ∧
      (r.verdict.isFinished = true → ∀ m, r.run m = .ok r) := by
  have hnew := Arena.within_new_of_sound (Source.sound_of_compile ha)
    (Source.sound_of_compile hb) hparams
  obtain ⟨r, hrun, h⟩ := hnew.exists_run_of_safe hparams n
  have hgoing : r.verdict.isOngoing = true → r.verdict.isFinished = false := by
    rw [Verdict.isOngoing, Verdict.isFinished]
    cases r.verdict.aLost <;> cases r.verdict.bLost <;> simp
  rw [← h.size, ← h.budget]
  refine ⟨r, hrun, rfl, h.keptA.inRange, h.keptB.inRange,
    fun hon => ⟨h.onTapeA (hgoing hon), h.onTapeB (hgoing hon)⟩, h.nearA,
    h.nearB, h.steps_le, fun hn => ?_, Arena.run_of_finished⟩
  refine Arena.finished_of_budget h hrun ?_
  show _ < ((0 : Nat) : Int) + _
  omega

/-- The theorem at a bot with a conditional loop in a counted one, against a
bot that sits on its flag. -/
theorem compiled_bots_run_safely_loops :
    ∃ a b : Program,
      (⟨"", "(>[-])*2+"⟩ : Source).compile = .ok a ∧
      (⟨"", "[+]"⟩ : Source).compile = .ok b ∧
      ∃ r, (Arena.new a b ⟨10, true, 100⟩).run 101 = .ok r ∧
        r.verdict.isFinished = true := by
  have ha : (⟨"", "(>[-])*2+"⟩ : Source).compile =
      .ok (Block.program (.times (.act .forward (.loop (.act .decrement .done)
        .done)) 2 (.act .increment .done))) := by cbv
  have hb : (⟨"", "[+]"⟩ : Source).compile =
      .ok (Block.program (.loop (.act .increment .done) .done)) := by cbv
  obtain ⟨r, hrun, -, -, -, -, -, -, -, hend, -⟩ :=
    compiled_bots_run_safely ha hb
      (show (⟨10, true, 100⟩ : RoundParams).flaw? = none by decide) 101
  exact ⟨_, _, ha, hb, r, hrun, hend (by decide)⟩

end TapeDuel
