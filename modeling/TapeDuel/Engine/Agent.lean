import TapeDuel.Engine.Tape
import TapeDuel.Program.Validate

/-!
# One bot during one round

An agent has a position on the tape, an instruction pointer, and one counter for each
counted loop it is inside. A turn is one instruction that is not the end of a counted
loop: before each turn the agent settles, which moves the pointer through loop ends
until it meets something that takes a turn or leaves the program. Loops that hold
nothing to do are skipped whole, so settling a compiled program passes each of its
places at most once.

The agent only reads the current cell. A change of it is handed to the arena, because
both agents see the tape as it was before the step.
-/

namespace TapeDuel

/-! ## Counted loops without effect -/

/-- A counted loop that is open while a program is scanned. -/
structure ScannedLoop where
  start : Nat
  takesTurn : Bool
deriving DecidableEq, Repr

/-- The state of a scan for inert loops. -/
structure InertScan where
  place : Nat
  opened : List ScannedLoop
  inert : Array Bool
deriving DecidableEq, Repr

namespace InertScan

/-- Nothing has been scanned of a program of this size. -/
def start (size : Nat) : InertScan :=
  ⟨0, [], Array.replicate size false⟩

/-- Notes that something in the innermost loop takes a turn. -/
def noteTurn : List ScannedLoop → List ScannedLoop
  | [] => []
  | top :: rest => { top with takesTurn := true } :: rest

/-- Scans one instruction. A loop that runs at least once and holds a turn is itself a
turn for the loop around it. -/
def visit (s : InertScan) (i : Instruction) : InertScan :=
  match i.op with
  | .repeatStart =>
      { s with place := s.place + 1, opened := ⟨s.place, false⟩ :: s.opened }
  | .repeatEnd =>
    match s.opened with
    | [] => { s with place := s.place + 1 }
    | top :: rest =>
      let isInert := !top.takesTurn || decide (i.iterations ≤ 0)
      { place := s.place + 1
        opened := if isInert then rest else noteTurn rest
        inert := s.inert.setIfInBounds top.start isInert }
  | _ => { s with place := s.place + 1, opened := noteTurn s.opened }

end InertScan

/-- For each place, whether a counted loop starts there that takes no turn: it runs
zero times, or nothing in it takes one. -/
def Program.inert (p : Program) : Array Bool :=
  (p.foldl InertScan.visit (.start p.size)).inert

/-! ## The agent -/

/-- The state of one bot during one round. -/
structure Agent where
  program : Program
  /-- Where inert loops start. -/
  inert : Array Bool
  orientation : Orientation
  polarity : Polarity
  position : Int
  pointer : Int
  /-- The counters of the loops around the pointer, innermost first. -/
  counters : List Nat
deriving DecidableEq, Repr

namespace Agent

/-- A bot before its first turn on a tape of `length` cells. -/
def new (program : Program) (length : Int64) (orientation : Orientation)
    (polarity : Polarity) : Agent :=
  { program
    inert := program.inert
    orientation
    polarity
    position := if orientation = .reversed then (length - 1).toInt else 0
    pointer := 0
    counters := [] }

/-- Whether the pointer has left the program. -/
@[inline]
def ended (a : Agent) : Bool :=
  decide ((a.program.size : Int) ≤ a.pointer)

/-- Whether the bot has left a tape of `length` cells. -/
@[inline]
def offTape (a : Agent) (length : Int) : Bool :=
  decide (a.position < 0) || decide (length ≤ a.position)

/-- Where a jump to `target` lands: right behind it. A target outside the program is
followed in a 64-bit register. -/
@[inline]
def landing (program : Program) (target : Int) : Int :=
  if 0 ≤ target ∧ target < program.size then target + 1 else wrap64 (target + 1)

/-- The places that a program made by hand may pass between two turns beyond its own
size. -/
@[noinline]
def slack : Nat :=
  4611686018427387904

/-- How many places a bot may pass between two turns. For a compiled program its size
would do. -/
def patience (program : Program) : Nat :=
  program.size + slack

/-- Moves the pointer through the ends of counted loops. -/
def settleFrom (program : Program) (inert : Array Bool) :
    Nat → Int → List Nat → Except Fault (Int × List Nat)
  | 0, _, _ => .error .stalled
  | fuel + 1, pointer, counters =>
    if (program.size : Int) ≤ pointer then .ok (pointer, counters)
    else
      match program.at? pointer with
      | none => .error .noInstruction
      | some i =>
        match i.op with
        | .repeatStart =>
          if inert.getD pointer.toNat false then
            settleFrom program inert fuel (landing program i.target) counters
          else settleFrom program inert fuel (pointer + 1) (0 :: counters)
        | .repeatEnd =>
          match counters with
          | [] => .error .noCounter
          | count :: outer =>
            if i.iterations ≤ (count : Int) + 1 then
              settleFrom program inert fuel (pointer + 1) outer
            else settleFrom program inert fuel (landing program i.target)
              ((count + 1) :: outer)
        | _ => .ok (pointer, counters)

/-- Whether the pointer stands at something that takes a turn. -/
@[inline]
def atTurn (a : Agent) : Bool :=
  match a.program.at? a.pointer with
  | some i => !i.op.isLoopControl
  | none => false

/-- The agent right before its next turn. Most of the time it is there already. -/
@[inline]
def settle (a : Agent) : Except Fault Agent :=
  if a.atTurn then .ok a
  else
    match settleFrom a.program a.inert (patience a.program) a.pointer a.counters with
    | .ok (pointer, counters) => .ok { a with pointer, counters }
    | .error fault => .error fault

/-- The agent moved along the tape, with its pointer behind the instruction. -/
@[inline]
def move (a : Agent) (direction : Int) : Agent :=
  { a with
    position := wrap64 (a.position + a.orientation.movement direction)
    pointer := a.pointer + 1 }

/-- The agent behind its instruction. -/
@[inline]
def advance (a : Agent) : Agent :=
  { a with pointer := a.pointer + 1 }

/-- The agent behind the target of its instruction. -/
@[inline]
def jump (a : Agent) (target : Int) : Agent :=
  { a with pointer := landing a.program target }

/-- The change of the current cell by `delta`. -/
@[inline]
def mutation (a : Agent) (delta : Int8) : Mutation :=
  ⟨a.position, a.polarity.delta delta⟩

/-- Takes the turn of one instruction. -/
@[inline]
def execute (a : Agent) (i : Instruction) (cellIsZero : Bool) :
    Agent × Option Mutation :=
  match i.op with
  | .moveBack => (a.move (-1), none)
  | .moveForward => (a.move 1, none)
  | .increment => (a.advance, some (a.mutation 1))
  | .decrement => (a.advance, some (a.mutation (-1)))
  | .whileStart => (if cellIsZero then a.jump i.target else a.advance, none)
  | .whileEnd => (if cellIsZero then a.advance else a.jump i.target, none)
  | .rest | .repeatStart | .repeatEnd | .unknown _ _ => (a.advance, none)

/-- One turn. `cellIsZero` tells of the current cell before the step. A bot whose
program has ended does nothing. -/
@[inline]
def step (a : Agent) (cellIsZero : Bool) : Except Fault (Agent × Option Mutation) :=
  match a.settle with
  | .error fault => .error fault
  | .ok a =>
    match a.program.at? a.pointer with
    | some i => .ok (a.execute i cellIsZero)
    | none => .ok (a, none)

end Agent

end TapeDuel
