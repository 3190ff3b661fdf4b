import TapeDuel.Binary.Program
import TapeDuel.Proofs.SafeRounds

/-!
# Rounds of stored programs

The check of a stored program makes its loops pairs, and pairs keep the pointer
in the program: a round of two checked programs never reads an instruction or a
cell that is not there. They do not keep the counters. Two counted loops may
cross, and then a loop can end that was never entered, or the bookkeeping can go
round without ever meeting a turn.

So the check alone is not enough: `crossing` passes it and fails in its first
step, `circling` passes it and never comes to a turn. What is true is said
exactly: a run fails if and only if one of its steps finds a bot that is still
running and derails, and this never happens once the counted loops of both
programs nest.
-/

namespace TapeDuel

namespace Binary

/-- What reading returns has passed the check. -/
theorem validate_of_readProgram {t : Text} {p : Program}
    (h : readProgram t = .ok p) : p.validate = .ok () := by
  rw [readProgram] at h
  split at h
  · cases h
  · split at h
    · cases h
    · split at h
      · cases h
      · split at h
        · cases h
        · next hvalid =>
            cases h
            exact hvalid

end Binary

/-! ## Which steps fail -/

namespace Agent

/-- A bot of a checked program. -/
def Guarded (a : Agent) : Prop :=
  ∃ k, a.Checked k

theorem Guarded.step {a a' : Agent} (ha : a.Guarded) {zero : Bool}
    {change : Option Mutation} (h : a.step zero = .ok (a', change)) :
    a'.Guarded := by
  obtain ⟨k, hk⟩ := ha
  exact hk.step h

/-- A bot that is still running and whose bookkeeping comes to no turn. -/
def Doomed (a : Agent) : Prop :=
  a.ended = false ∧ a.Derails a.pointer.toNat

theorem Guarded.step_error_iff {a : Agent} (ha : a.Guarded) (zero : Bool) :
    (∃ fault, a.step zero = .error fault) ↔ a.Derails a.pointer.toNat := by
  obtain ⟨k, hk⟩ := ha
  rw [Agent.step_error_iff hk zero, hk.pointer, Int.toNat_natCast]

theorem Guarded.fault_of_step {a : Agent} (ha : a.Guarded) {zero : Bool}
    {fault : Fault} (h : a.step zero = .error fault) :
    fault = .noCounter ∨ fault = .stalled := by
  obtain ⟨k, hk⟩ := ha
  exact Agent.fault_of_step hk h

end Agent

namespace Arena

theorem within_new_of_validate {a b : Program} (ha : a.validate = .ok ())
    (hb : b.validate = .ok ()) {params : RoundParams}
    (hparams : params.flaw? = none) :
    (Arena.new a b params).Within Agent.Guarded params :=
  within_new hparams ⟨0, Agent.checked_new ha _ _ _⟩
    ⟨0, Agent.checked_new hb _ _ _⟩

theorem Within.run_of_guarded {r r' : Arena} {params : RoundParams} {n : Nat}
    (h : r.Within Agent.Guarded params) (hrun : r.run n = .ok r') :
    r'.Within Agent.Guarded params :=
  within_run (fun _ _ _ _ ha hstep => ha.step hstep) h hrun

/-- A step of checked bots fails exactly when the round goes on, a step is left
and a bot is doomed. -/
theorem Within.step_error_iff_doomed {r : Arena} {params : RoundParams}
    (h : r.Within Agent.Guarded params) (hparams : params.flaw? = none) :
    (∃ fault, r.step = .error fault) ↔
      r.verdict.isFinished = false ∧ (r.steps : Int) < r.maxSteps ∧
        (r.a.Doomed ∨ r.b.Doomed) := by
  rw [step_error_iff h hparams]
  refine and_congr_right fun hgoing => and_congr_right fun _ => ?_
  have hturn : ∀ {a : Agent}, a.Guarded →
      0 ≤ a.position ∧ a.position < r.tape.size →
      ((a.ended = false ∧ ∃ zero, r.tape.isZero a.position = .ok zero ∧
        ∃ fault, a.step zero = .error fault) ↔ a.Doomed) := by
    intro a ha hon
    refine and_congr_right fun _ => ?_
    obtain ⟨zero, hzero⟩ := Tape.isZero_ok_iff.mpr hon
    constructor
    · rintro ⟨zero, -, hfault⟩
      exact (ha.step_error_iff zero).mp hfault
    · intro hderails
      exact ⟨zero, hzero, (ha.step_error_iff zero).mpr hderails⟩
  exact or_congr (hturn h.keptA (h.onTapeA hgoing))
    (hturn h.keptB (h.onTapeB hgoing))

/-- The only faults are those of the bookkeeping. -/
theorem Within.fault_of_step {r : Arena} {params : RoundParams} {fault : Fault}
    (h : r.Within Agent.Guarded params) (hparams : params.flaw? = none)
    (hstep : r.step = .error fault) :
    fault = .noCounter ∨ fault = .stalled := by
  obtain ⟨-, -, ⟨-, zero, -, hfault⟩ | ⟨-, zero, -, hfault⟩⟩ :=
    Arena.fault_of_step h hparams hstep
  · exact h.keptA.fault_of_step hfault
  · exact h.keptB.fault_of_step hfault

theorem Within.fault_of_run {params : RoundParams} {fault : Fault}
    (hparams : params.flaw? = none) {n : Nat} :
    ∀ {r : Arena}, r.Within Agent.Guarded params → r.run n = .error fault →
      fault = .noCounter ∨ fault = .stalled := by
  induction n with
  | zero =>
      intro r _ hrun
      cases hrun
  | succ n ih =>
      intro r h hrun
      cases hstep : r.step with
      | error fault' =>
          rw [run, hstep] at hrun
          cases hrun
          exact h.fault_of_step hparams hstep
      | ok r' =>
          rw [run_of_step hstep] at hrun
          exact ih (within_step h (fun _ _ _ _ ha hs => ha.step hs) hstep) hrun

end Arena

/-! ## Stored bots -/

/-- Two counted loops that cross: each end names its partner, and the check
passes. -/
def crossing : Program :=
  #[⟨.repeatStart, 2, 0⟩, ⟨.repeatStart, 3, 0⟩, ⟨.repeatEnd, 0, 1⟩,
    ⟨.repeatEnd, 1, 1⟩]

/-- The check is no guard: the crossing program is read back from its stored
form, its opponent has nothing to do, the parameters are fine, and the first
step of the round asks for a counter that is not there. -/
theorem crossing_fails_first_step :
    Binary.readProgram (Binary.writeProgram crossing) = .ok crossing ∧
      crossing.validate = .ok () ∧ Program.validate #[] = .ok () ∧
      (⟨10, false, 100⟩ : RoundParams).flaw? = none ∧
      (Arena.new crossing #[] ⟨10, false, 100⟩).run 1 = .error .noCounter ∧
      Round.play .never 0 crossing #[] ⟨10, false, 100⟩ =
        .ok (.faulted .noCounter 0, 0) := by
  have hread : Binary.readProgram (Binary.writeProgram crossing) =
      .ok crossing := by cbv
  exact ⟨hread, Binary.validate_of_readProgram hread, rfl, rfl, by decide,
    by cbv⟩

/-- Three counted loops, of which the inner two cross. The scan takes the end of
one for that of the other and marks the wrong one, which is skipped past the
end of the loop around it. -/
def circling : Program :=
  #[⟨.repeatStart, 6, 0⟩, ⟨.repeatStart, 3, 0⟩, ⟨.repeatStart, 5, 0⟩,
    ⟨.repeatEnd, 1, 1⟩, ⟨.increment, 0, 0⟩, ⟨.repeatEnd, 2, 1⟩,
    ⟨.repeatEnd, 0, 2⟩]

/-- The bookkeeping comes back to the second loop after three moves, with one
more counter on the stack, so it can be followed for as long as one likes. -/
theorem exists_freePath_circling : ∀ (n : Nat) (counters : List Nat),
    (∃ k' cs', circling.FreePath n 1 counters k' cs') ∧
      (∃ k' cs', circling.FreePath n 2 (0 :: counters) k' cs') ∧
      ∃ k' cs', circling.FreePath n 6 (0 :: counters) k' cs' := by
  intro n
  induction n with
  | zero => exact fun counters => ⟨⟨_, _, .stay⟩, ⟨_, _, .stay⟩, _, _, .stay⟩
  | succ n ih =>
      intro counters
      refine ⟨?_, ?_, ?_⟩
      · obtain ⟨k', cs', hpath⟩ := (ih counters).2.1
        have henter : circling.FreeMove 1 counters 2 (0 :: counters) :=
          .enter rfl rfl (by decide)
        exact ⟨k', cs', .move henter hpath⟩
      · obtain ⟨k', cs', hpath⟩ := (ih counters).2.2
        have hskip : circling.FreeMove 2 (0 :: counters) 6 (0 :: counters) :=
          .skip rfl rfl rfl (by decide)
        exact ⟨k', cs', .move hskip hpath⟩
      · obtain ⟨k', cs', hpath⟩ := (ih (1 :: counters)).1
        have hagain : circling.FreeMove 6 (0 :: counters) 1 (1 :: counters) :=
          .again rfl rfl rfl (by decide)
        exact ⟨k', cs', .move hagain hpath⟩

/-- The other way to fail: a bot of the circling program never settles, however
patient it is. -/
theorem circling_never_settles (fuel : Nat) :
    Agent.settleFrom circling circling.inert fuel 0 [] = .error .stalled := by
  have hvalid : circling.validate = .ok () := by decide
  cases fuel with
  | zero => rfl
  | succ fuel =>
      obtain ⟨k', cs', hpath⟩ := (exists_freePath_circling fuel [0]).1
      have hfirst : circling.FreeMove 0 [] 1 [0] := .enter rfl rfl (by decide)
      exact Program.settleFrom_zero_of_freePath hvalid (.move hfirst hpath)

/-- A run of two checked programs fails exactly when one of its steps finds a
doomed bot in a round that still has a step to make, and the fault is one of
the bookkeeping. If the counted loops of both programs nest, no bot is ever
doomed: every run comes through, and every round that has room is played and
replayed to its verdict, unless it is stopped. -/
theorem checked_bots_fail_iff_doomed {a b : Program} {params : RoundParams}
    (ha : a.validate = .ok ()) (hb : b.validate = .ok ())
    (hparams : params.flaw? = none) :
    (∀ n, (∃ fault, (Arena.new a b params).run n = .error fault) ↔
      ∃ m < n, ∃ r, (Arena.new a b params).run m = .ok r ∧
        r.verdict.isFinished = false ∧ (r.steps : Int) < r.maxSteps ∧
        (r.a.Doomed ∨ r.b.Doomed)) ∧
    (∀ n fault, (Arena.new a b params).run n = .error fault →
      fault = .noCounter ∨ fault = .stalled) ∧
    (a.CountsNest → b.CountsNest →
      (∀ n, ∃ r, (Arena.new a b params).run n = .ok r) ∧
      (params.hasRoom = true → ∃ r, r.verdict.isFinished = true ∧
        (∀ interrupts asked, ∃ ending asked',
          Round.play interrupts asked a b params = .ok (ending, asked') ∧
          (ending = .finished r.verdict r.steps ∨
            (∃ n, interrupts n = true) ∧ ∃ steps, ending = .canceled steps)) ∧
        ∀ (ν : Type) (note : Arena → Option ν), ∃ notes,
          Round.watch note a b params = .ok (.ok r, notes))) := by
  have hnew := Arena.within_new_of_validate ha hb hparams
  refine ⟨fun n => ?_, fun n fault => Arena.Within.fault_of_run hparams hnew,
    fun hnestA hnestB => ⟨fun n => ?_, fun hroom => ?_⟩⟩
  · rw [Arena.run_error_iff]
    refine exists_congr fun m => and_congr_right fun _ => exists_congr fun r =>
      and_congr_right fun hrun => ?_
    exact (hnew.run_of_guarded hrun).step_error_iff_doomed hparams
  · obtain ⟨r, hrun, -⟩ := (Arena.within_new_of_sound ⟨ha, hnestA⟩
      ⟨hb, hnestB⟩ hparams).exists_run_of_safe hparams n
    exact ⟨r, hrun⟩
  · obtain ⟨r, hrun, hfin⟩ :=
      Round.exists_final ⟨ha, hnestA⟩ ⟨hb, hnestB⟩ hparams
    refine ⟨r, hfin, fun interrupts asked => ?_, fun ν note => ?_⟩
    · refine ⟨_, _, Round.play_eq_proceed hparams hroom interrupts asked a b, ?_⟩
      exact Round.proceed_of_run interrupts (Nat.succ_pos _) hrun hfin
    · have hfollow : (Round.follow note _ _ []).1 = .ok r :=
        Round.follow_of_run note (Nat.succ_pos _) hrun hfin
      rw [Round.watch_eq_follow hparams hroom, ← hfollow]
      exact ⟨_, rfl⟩

/-- The theorem at a program that was never compiled: its conditional loops
cross, its counted loop holds one of them whole. -/
theorem checked_bots_fail_iff_doomed_while :
    ∃ p : Program, p.validate = .ok () ∧ p.CountsNest ∧
      ∀ n, ∃ r, (Arena.new p p ⟨10, true, 100⟩).run n = .ok r := by
  refine ⟨#[⟨.whileStart, 2, 0⟩, ⟨.whileStart, 3, 0⟩, ⟨.whileEnd, 0, 0⟩,
    ⟨.whileEnd, 1, 0⟩, ⟨.repeatStart, 7, 0⟩, ⟨.whileStart, 6, 0⟩,
    ⟨.whileEnd, 5, 0⟩, ⟨.repeatEnd, 4, 3⟩], by decide, by decide, ?_⟩
  exact ((checked_bots_fail_iff_doomed (by decide) (by decide)
    (by decide)).2.2 (by decide) (by decide)).1

end TapeDuel
