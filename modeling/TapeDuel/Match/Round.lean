import TapeDuel.Failure

/-!
# Playing one round

A round is stepped until it has a verdict. Between steps, once every 4096, the player
asks whether it should stop. The answers are a function of the number of the inquiry:
a caller may change its mind at any time, and a game asks the same function on through
all its rounds.
-/

namespace TapeDuel

/-- Whether to stop, asked for the `n`-th time. -/
abbrev Interrupts := Nat → Bool

namespace Interrupts

/-- Nobody ever stops. -/
def never : Interrupts := fun _ => false

/-- Everybody stops from the start. -/
def always : Interrupts := fun _ => true

/-- The first `n` inquiries find nothing. -/
def after (n : Nat) : Interrupts := fun asked => decide (n ≤ asked)

end Interrupts

/-- How a round ends. -/
inductive RoundEnd where
  | finished (verdict : Verdict) (steps : Nat)
  | canceled (steps : Nat)
  | faulted (fault : Fault) (steps : Nat)
deriving DecidableEq, Repr

namespace Round

/-- The steps between two inquiries. -/
def checkInterval : Nat := 4096

/-- Steps a round on. `done` steps were made since its start and `asked` inquiries
before. -/
def proceed (interrupts : Interrupts) : Nat → Arena → Nat → Nat → RoundEnd × Nat
  | 0, arena, _, asked => (.faulted .stalled arena.steps, asked)
  | fuel + 1, arena, done, asked =>
    let before := arena.steps
    match arena.step with
    | .error fault => (.faulted fault before, asked)
    | .ok arena =>
      let done := done + 1
      if arena.verdict.isFinished then (.finished arena.verdict arena.steps, asked)
      else if done % checkInterval = 0 then
        if interrupts asked then (.canceled arena.steps, asked + 1)
        else proceed interrupts fuel arena done (asked + 1)
      else proceed interrupts fuel arena done asked

/-- A round before its first step. Its parameters are checked before its tape is made. -/
def start (a b : Program) (params : RoundParams) :
    Except RoundParams.Flaw (Except Fault Arena) :=
  match params.flaw? with
  | some flaw => .error flaw
  | none => .ok (if params.hasRoom then .ok (Arena.new a b params) else .error .noRoom)

/-- Plays a round to its end. Returns also the number of inquiries made so far. A
round is finished at the latest by the step after the last one allowed. -/
def play (interrupts : Interrupts) (asked : Nat) (a b : Program) (params : RoundParams) :
    Except RoundParams.Flaw (RoundEnd × Nat) :=
  match start a b params with
  | .error flaw => .error flaw
  | .ok (.error fault) => .ok (.faulted fault 0, asked)
  | .ok (.ok arena) =>
      .ok (proceed interrupts (params.maxSteps.toNatClampNeg + 1) arena 0 asked)

/-- Steps a round to its end and takes a note after each step; the latest note comes
first. -/
def follow {ν : Type} (note : Arena → Option ν) :
    Nat → Arena → List ν → Except Fault Arena × List ν
  | 0, _, notes => (.error .stalled, notes)
  | fuel + 1, arena, notes =>
    match arena.step with
    | .error fault => (.error fault, notes)
    | .ok arena =>
      let notes := (note arena).toList ++ notes
      if arena.verdict.isFinished then (.ok arena, notes)
      else follow note fuel arena notes

/-- Plays a round to its end and takes notes; the latest comes first. -/
def watch {ν : Type} (note : Arena → Option ν) (a b : Program) (params : RoundParams) :
    Except RoundParams.Flaw (Except Fault Arena × List ν) :=
  match start a b params with
  | .error flaw => .error flaw
  | .ok (.error fault) => .ok (.error fault, [])
  | .ok (.ok arena) => .ok (follow note (params.maxSteps.toNatClampNeg + 1) arena [])

end Round

end TapeDuel
