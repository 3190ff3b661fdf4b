import TapeDuel.Engine.Agent
import TapeDuel.Engine.Verdict

/-!
# The arena

Two agents share a tape. In each step both see the same tape, both take one turn, and
then their changes are applied. A side loses when its bot leaves the tape, or when its
flag is zero before and after a step. A round without a loser is drawn when its steps
are used up, and already when nothing can change any more: both programs have ended
and neither flag is zero. A finished round stays as it is.
-/

namespace TapeDuel

/-- The parameters of one round. -/
structure RoundParams where
  tapeLength : Int64
  inverted : Bool
  maxSteps : Int64
deriving DecidableEq, Repr, Inhabited

namespace RoundParams

/-- What can be wrong with round parameters. -/
inductive Flaw where
  | shortTape (length : Int64)
  | negativeSteps (steps : Int64)
deriving DecidableEq, Repr

/-- The wording of a flaw. -/
def Flaw.message : Flaw → String
  | shortTape length => s!"bad round params: tape length {length.toInt}, need at least 2"
  | negativeSteps steps => s!"bad round params: negative max steps {steps.toInt}"

/-- The first flaw of round parameters. -/
def flaw? (p : RoundParams) : Option Flaw :=
  if p.tapeLength < 2 then some (.shortTape p.tapeLength)
  else if p.maxSteps < 0 then some (.negativeSteps p.maxSteps)
  else none

/-- Whether the tape of a round fits into memory. -/
def hasRoom (p : RoundParams) : Bool :=
  p.tapeLength.toNatClampNeg ≤ Tape.maxLength

/-- Round parameters in words; the number of steps is left out. -/
def describe (p : RoundParams) : String :=
  let polarity := if p.inverted then "inverted" else "normal"
  s!"tape={p.tapeLength.toInt} polarity={polarity}"

/-- The polarity of side B. -/
def polarityB (p : RoundParams) : Polarity :=
  if p.inverted then .reversed else .normal

end RoundParams

/-- The state of a round. -/
structure Arena where
  tape : Tape
  a : Agent
  b : Agent
  steps : Nat
  maxSteps : Int
  verdict : Verdict
deriving DecidableEq, Repr

namespace Arena

/-- A round before its first step. -/
def new (a b : Program) (params : RoundParams) : Arena :=
  { tape := Tape.new params.tapeLength.toNatClampNeg
    a := Agent.new a params.tapeLength .normal .normal
    b := Agent.new b params.tapeLength .reversed params.polarityB
    steps := 0
    maxSteps := params.maxSteps.toInt
    verdict := .ongoing }

/-- Whether nothing can change any more. -/
@[inline]
def inSink (r : Arena) : Except Fault Bool :=
  if r.a.ended && r.b.ended then
    match r.tape.flagZero .a, r.tape.flagZero .b with
    | .ok aZero, .ok bZero => .ok (!aZero && !bZero)
    | .error fault, _ => .error fault
    | _, .error fault => .error fault
  else .ok false

/-- The turn of one agent on a tape. An agent whose program has ended does not even
look at its cell. -/
@[inline]
def turn (tape : Tape) (agent : Agent) : Except Fault (Agent × Option Mutation) :=
  if agent.ended then .ok (agent, none)
  else
    match tape.isZero agent.position with
    | .error fault => .error fault
    | .ok zero => agent.step zero

/-- The tape after a change, if there is one. -/
@[inline]
def applyTo (tape : Tape) : Option Mutation → Except Fault Tape
  | none => .ok tape
  | some m => tape.apply m

/-- One step of both agents. -/
@[inline]
def advance (r : Arena) : Except Fault Arena := do
  let aWasZero ← r.tape.flagZero .a
  let bWasZero ← r.tape.flagZero .b
  let (a, aChange) ← turn r.tape r.a
  let (b, bChange) ← turn r.tape r.b
  let tape ← applyTo r.tape aChange
  let tape ← applyTo tape bChange
  let aIsZero ← tape.flagZero .a
  let bIsZero ← tape.flagZero .b
  let length : Int := tape.size
  return {
    tape
    a
    b
    steps := r.steps + 1
    maxSteps := r.maxSteps
    verdict :=
      ⟨a.offTape length || aWasZero && aIsZero,
        b.offTape length || bWasZero && bIsZero⟩ }

/-- The round one step later. -/
def step (r : Arena) : Except Fault Arena :=
  if r.verdict.isFinished then .ok r
  else if r.maxSteps ≤ r.steps then .ok { r with verdict := .draw }
  else
    match r.inSink with
    | .error fault => .error fault
    | .ok true => .ok { r with verdict := .draw }
    | .ok false => r.advance

/-- The round `n` steps later. -/
def run (r : Arena) : Nat → Except Fault Arena
  | 0 => .ok r
  | n + 1 =>
    match r.step with
    | .error fault => .error fault
    | .ok r => r.run n

end Arena

end TapeDuel
