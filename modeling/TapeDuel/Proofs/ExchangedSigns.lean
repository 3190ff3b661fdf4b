import TapeDuel.Match.Round
import TapeDuel.Proofs.Mirror

/-!
# An inverted round is a normal round

In an inverted round the bot on side B means the other thing by `+` and `-`. It
can as well be told so before: exchange the two in its program and play the
round the normal way.

Nothing but the change of a cell depends on which of the two an instruction is.
The inert loops are the same, settling goes through the same places, and the
changes are those that the inverted polarity makes of the old instructions. So
exchanging the signs of side B (`Arena.exchanged`) commutes with everything that
a round does, and that includes its faults.
-/

namespace TapeDuel

/-! ## Programs -/

/-- The operation with `+` and `-` exchanged. -/
def Op.exchanged : Op → Op
  | increment => decrement
  | decrement => increment
  | op => op

/-- The instruction with `+` and `-` exchanged. -/
def Instruction.exchanged (i : Instruction) : Instruction :=
  { i with op := i.op.exchanged }

/-- The program with `+` and `-` exchanged. -/
def Program.exchanged (p : Program) : Program :=
  p.map Instruction.exchanged

@[simp] theorem Op.isLoopControl_exchanged (op : Op) :
    op.exchanged.isLoopControl = op.isLoopControl := by
  cases op <;> rfl

@[simp] theorem Program.size_exchanged (p : Program) : p.exchanged.size = p.size :=
  Array.size_map

@[simp] theorem Program.at?_exchanged (p : Program) (target : Int) :
    p.exchanged.at? target = (p.at? target).map Instruction.exchanged := by
  rw [at?, at?, exchanged, Array.getElem?_map]
  split <;> rfl

theorem InertScan.visit_exchanged (s : InertScan) (i : Instruction) :
    s.visit i.exchanged = s.visit i := by
  obtain ⟨op, target, iterations⟩ := i
  cases op <;> rfl

/-- The same loops are inert. -/
@[simp] theorem Program.inert_exchanged (p : Program) :
    p.exchanged.inert = p.inert := by
  rw [inert, inert, exchanged, Array.foldl_map, Array.size_map]
  simp only [InertScan.visit_exchanged]

/-- A bot of inverted polarity does with one sign what it would do with the
other. -/
theorem Polarity.delta_flip (p : Polarity) :
    (p.flipIf true).delta 1 = p.delta (-1) ∧ (p.flipIf true).delta (-1) = p.delta 1 := by
  cases p <;> decide

/-! ## Bots -/

namespace Agent

/-- The bot with `+` and `-` exchanged in its program and in its polarity. -/
def exchanged (a : Agent) : Agent :=
  { a with
    program := a.program.exchanged
    polarity := a.polarity.flipIf true }

variable (a : Agent)

@[simp] theorem ended_exchanged : a.exchanged.ended = a.ended := by
  simp [ended, exchanged]

theorem landing_exchanged (p : Program) (target : Int) :
    landing p.exchanged target = landing p target := by
  rw [landing, landing, Program.size_exchanged]

theorem settleFrom_exchanged (p : Program) (inert : Array Bool) (fuel : Nat) :
    ∀ pointer counters, settleFrom p.exchanged inert fuel pointer counters =
      settleFrom p inert fuel pointer counters := by
  induction fuel with
  | zero =>
      intro pointer counters
      rfl
  | succ fuel ih =>
      intro pointer counters
      rw [settleFrom, settleFrom, Program.size_exchanged, Program.at?_exchanged]
      cases p.at? pointer with
      | none => rfl
      | some i =>
          obtain ⟨op, target, iterations⟩ := i
          simp only [Option.map_some, landing_exchanged, ih]
          cases op <;> rfl

theorem program_exchanged : a.exchanged.program = a.program.exchanged :=
  rfl

theorem pointer_exchanged : a.exchanged.pointer = a.pointer :=
  rfl

theorem settle_exchanged : a.exchanged.settle = a.settle.map exchanged := by
  have hturn : a.exchanged.atTurn = a.atTurn := by
    rw [atTurn, atTurn, program_exchanged, pointer_exchanged, Program.at?_exchanged]
    cases a.program.at? a.pointer with
    | none => rfl
    | some i => exact congrArg (!·) i.op.isLoopControl_exchanged
  have hspot : settleFrom a.exchanged.program a.exchanged.inert
      (patience a.exchanged.program) a.exchanged.pointer a.exchanged.counters =
      settleFrom a.program a.inert (patience a.program) a.pointer a.counters := by
    show settleFrom a.program.exchanged _ (a.program.exchanged.size + slack) _ _ = _
    rw [Program.size_exchanged, settleFrom_exchanged]
    rfl
  rw [settle, hturn, hspot, settle]
  split
  · rfl
  · cases settleFrom a.program a.inert (patience a.program) a.pointer a.counters <;> rfl

/-- The exchanged instruction does to the tape what the old one did. -/
theorem execute_exchanged (i : Instruction) (zero : Bool) :
    a.exchanged.execute i.exchanged zero =
      ((a.execute i zero).1.exchanged, (a.execute i zero).2) := by
  obtain ⟨op, target, iterations⟩ := i
  have hjump : a.exchanged.jump target = (a.jump target).exchanged := by
    simp only [jump, exchanged, landing_exchanged]
  cases op with
  | increment =>
      exact congrArg (fun delta => (a.advance.exchanged, some (Mutation.mk _ delta)))
        a.polarity.delta_flip.2
  | decrement =>
      exact congrArg (fun delta => (a.advance.exchanged, some (Mutation.mk _ delta)))
        a.polarity.delta_flip.1
  | whileStart =>
      cases zero
      · rfl
      · exact congrArg (·, none) hjump
  | whileEnd =>
      cases zero
      · exact congrArg (·, none) hjump
      · rfl
  | moveBack | moveForward | rest | repeatStart | repeatEnd | unknown => rfl

theorem step_exchanged (zero : Bool) :
    a.exchanged.step zero = (a.step zero).map fun turn =>
      (turn.1.exchanged, turn.2) := by
  rw [step, settle_exchanged, step]
  cases a.settle with
  | error fault => rfl
  | ok s =>
      dsimp only [Except.map]
      rw [program_exchanged, pointer_exchanged, Program.at?_exchanged]
      cases s.program.at? s.pointer with
      | none => rfl
      | some i => exact congrArg Except.ok (s.execute_exchanged i zero)

end Agent

/-! ## Rounds -/

namespace Arena

/-- The round with `+` and `-` exchanged for the bot on side B. -/
def exchanged (r : Arena) : Arena :=
  { r with b := r.b.exchanged }

/-- An inverted round is set up as a normal round against the bot with exchanged
signs. -/
theorem exchanged_new (a b : Program) (length budget : Int64) :
    (Arena.new a b ⟨length, true, budget⟩).exchanged =
      Arena.new a b.exchanged ⟨length, false, budget⟩ := by
  simp only [exchanged, new, Agent.exchanged, Agent.new, Program.inert_exchanged]
  rfl

variable (r : Arena)

theorem turn_exchanged (t : Tape) (a : Agent) :
    turn t a.exchanged = (turn t a).map fun turn => (turn.1.exchanged, turn.2) := by
  have hzero : t.isZero a.exchanged.position = t.isZero a.position := rfl
  rw [turn, Agent.ended_exchanged, hzero, turn]
  split
  · rfl
  · cases t.isZero a.position with
    | error fault => rfl
    | ok zero => exact a.step_exchanged zero

theorem inSink_exchanged : r.exchanged.inSink = r.inSink := by
  have hended : (r.exchanged.a.ended && r.exchanged.b.ended) =
      (r.a.ended && r.b.ended) :=
    congrArg (r.a.ended && ·) r.b.ended_exchanged
  rw [inSink, hended]
  rfl

theorem advance_exchanged : r.exchanged.advance = r.advance.map exchanged := by
  have htape : r.exchanged.tape = r.tape := rfl
  have hturnA : turn r.tape r.exchanged.a = turn r.tape r.a := rfl
  have hturnB : turn r.tape r.exchanged.b =
      (turn r.tape r.b).map fun turn => (turn.1.exchanged, turn.2) :=
    turn_exchanged r.tape r.b
  simp only [advance, htape, hturnA, hturnB, bind, Except.bind]
  rcases r.tape.flagZero .a with fault | aWas
  · rfl
  rcases r.tape.flagZero .b with fault | bWas
  · rfl
  rcases turn r.tape r.a with fault | ⟨a, aChange⟩
  · rfl
  rcases turn r.tape r.b with fault | ⟨b, bChange⟩
  · rfl
  simp only [Except.map]
  rcases applyTo r.tape aChange with fault | middle
  · rfl
  dsimp only
  rcases applyTo middle bChange with fault | tape
  · rfl
  dsimp only
  rcases tape.flagZero .a with fault | aIs
  · rfl
  rcases tape.flagZero .b with fault | bIs
  · rfl
  rfl

theorem step_exchanged : r.exchanged.step = r.step.map exchanged := by
  have hverdict : r.exchanged.verdict = r.verdict := rfl
  have hbudget : r.exchanged.maxSteps = r.maxSteps := rfl
  have hsteps : r.exchanged.steps = r.steps := rfl
  rw [step, hverdict, hbudget, hsteps, inSink_exchanged, advance_exchanged, step]
  split
  · rfl
  · split
    · rfl
    · cases r.inSink with
      | error fault => rfl
      | ok sink => cases sink <;> rfl

/-- Exchanging the signs before a run is exchanging them after it. -/
theorem run_exchanged (n : Nat) : r.exchanged.run n = (r.run n).map exchanged := by
  induction n generalizing r with
  | zero => rfl
  | succ n ih =>
      rw [run, run, step_exchanged]
      cases r.step with
      | error fault => rfl
      | ok r₁ => exact ih r₁

end Arena

namespace Round

/-- A player sees no difference. -/
theorem proceed_exchanged (interrupts : Interrupts) (fuel : Nat) :
    ∀ (r : Arena) (done asked : Nat), proceed interrupts fuel r.exchanged done asked =
      proceed interrupts fuel r done asked := by
  induction fuel with
  | zero =>
      intro r done asked
      rfl
  | succ fuel ih =>
      intro r done asked
      rw [proceed, proceed, Arena.step_exchanged]
      cases r.step with
      | error fault => rfl
      | ok r₁ =>
          simp only [Except.map, ih]
          rfl

theorem play_exchanged (interrupts : Interrupts) (asked : Nat) (a b : Program)
    (length budget : Int64) :
    play interrupts asked a b.exchanged ⟨length, false, budget⟩ =
      play interrupts asked a b ⟨length, true, budget⟩ := by
  have hflaw : (⟨length, false, budget⟩ : RoundParams).flaw? =
      (⟨length, true, budget⟩ : RoundParams).flaw? := rfl
  have hroom : (⟨length, false, budget⟩ : RoundParams).hasRoom =
      (⟨length, true, budget⟩ : RoundParams).hasRoom := rfl
  rw [play, play, start, start, hflaw, hroom, ← Arena.exchanged_new]
  cases (⟨length, true, budget⟩ : RoundParams).flaw? with
  | some flaw => rfl
  | none =>
      cases (⟨length, true, budget⟩ : RoundParams).hasRoom with
      | false => rfl
      | true => exact congrArg Except.ok (proceed_exchanged interrupts _ _ 0 asked)

end Round

/-- An inverted round is a normal round against the bot with `+` and `-` exchanged.
After any number of steps the two have the same tape, the bots stand in the same
places, and as many steps were counted towards the same verdict; if a bot fails on
the way it fails in both rounds in the same step. A player who plays the two rounds
reports the same of both. That holds for all programs and parameters. -/
theorem inverted_round_is_normal_round (a b : Program) (length budget : Int64) :
    (∀ n,
      (∀ r, (Arena.new a b ⟨length, true, budget⟩).run n = .ok r →
        ∃ r', (Arena.new a b.exchanged ⟨length, false, budget⟩).run n = .ok r' ∧
          r'.tape = r.tape ∧ r'.a.position = r.a.position ∧
          r'.b.position = r.b.position ∧ r'.steps = r.steps ∧
          r'.verdict = r.verdict) ∧
      ∀ fault, (Arena.new a b ⟨length, true, budget⟩).run n = .error fault ↔
        (Arena.new a b.exchanged ⟨length, false, budget⟩).run n = .error fault) ∧
    ∀ interrupts asked, Round.play interrupts asked a b ⟨length, true, budget⟩ =
      Round.play interrupts asked a b.exchanged ⟨length, false, budget⟩ := by
  refine ⟨fun n => ?_, fun interrupts asked =>
    (Round.play_exchanged interrupts asked a b length budget).symm⟩
  rw [← Arena.exchanged_new, Arena.run_exchanged]
  cases (Arena.new a b ⟨length, true, budget⟩).run n with
  | error fault =>
      refine ⟨fun r hrun => ?_, fun fault' => Iff.rfl⟩
      cases hrun
  | ok r =>
      refine ⟨fun r' hrun => ?_, fun fault => ⟨fun hrun => ?_, fun hrun => ?_⟩⟩
      · cases hrun
        exact ⟨r.exchanged, rfl, rfl, rfl, rfl, rfl, rfl⟩
      · cases hrun
      · cases hrun

end TapeDuel
