import TapeDuel.Engine.Tape
import TapeDuel.Source.Block

/-!
# A bot that walks over its tree

What a source means can be said without instructions and pointers. A walker holds what
its bot has still to do, the next thing first: blocks, and the ends of the conditional
loops around them. Actions and both ends of a conditional loop take one turn each. A
counted loop takes none; it is so many passes of its body, one after the other, and a
loop with nothing to do in it is over at once.

Looking for the next thing that takes a turn opens blocks and counts passes down.
`Block.effort` weighs what can be opened that way, and each opening makes it less.
-/

namespace TapeDuel

/-- Something that a bot has still to do. -/
inductive Pending where
  /-- A block. -/
  | block (b : Block)
  /-- The end of a conditional loop with this body. -/
  | loopEnd (body : Block)
deriving DecidableEq, Repr

/-- The openings that a block allows before a turn is taken. -/
def Block.effort : Block → Nat
  | done => 1
  | act _ next => next.effort + 1
  | loop _ next => next.effort + 1
  | times body count next => count * (body.effort + 1) + next.effort + 1

/-- The openings that something pending allows. -/
def Pending.effort : Pending → Nat
  | block b => b.effort
  | loopEnd _ => 0

/-- All that a bot has still to do, the next thing first. -/
abbrev Plan := List Pending

namespace Plan

/-- The openings that a plan allows. -/
def effort : Plan → Nat
  | [] => 0
  | p :: rest => p.effort + effort rest

/-- The plan with a thing in front that takes a turn, or without anything to do. -/
def ready : Plan → Plan
  | .block .done :: rest => ready rest
  | .block (.times _ 0 next) :: rest => ready (.block next :: rest)
  | .block (.times body (count + 1) next) :: rest =>
    ready (.block body :: .block (.times body count next) :: rest)
  | plan => plan
termination_by plan => effort plan
decreasing_by
  all_goals simp only [effort, Pending.effort, Block.effort, Nat.succ_mul]
  all_goals omega

/-- One turn: what is done in it, if it is more than looking at the cell, and the plan
behind it. -/
def turn (plan : Plan) (cellIsZero : Bool) : Plan × Option Action :=
  match ready plan with
  | .block (.act action next) :: rest => (.block next :: rest, some action)
  | .block (.loop body next) :: rest =>
    if cellIsZero then (.block next :: rest, none)
    else (.block body :: .loopEnd body :: .block next :: rest, none)
  | .loopEnd body :: rest =>
    if cellIsZero then (rest, none) else (.block body :: .loopEnd body :: rest, none)
  | plan => (plan, none)

/-- Whether a plan's first thing takes a turn. -/
def TakesTurn : Plan → Prop
  | .block (.act _ _) :: _ => True
  | .block (.loop _ _) :: _ => True
  | .loopEnd _ :: _ => True
  | _ => False

/-- Nothing else stands in front of a plan that is ready. -/
theorem ready_eq_nil_or_takesTurn (plan : Plan) :
    ready plan = [] ∨ TakesTurn (ready plan) := by
  fun_induction ready plan with
  | case1 rest ih => exact ih
  | case2 body next rest ih => exact ih
  | case3 body count next rest ih => exact ih
  | case4 plan hdone hzero hsucc =>
    match plan with
    | [] => exact .inl rfl
    | .block .done :: rest => exact absurd rfl (hdone rest)
    | .block (.times body 0 next) :: rest => exact absurd rfl (hzero body next rest)
    | .block (.times body (count + 1) next) :: rest =>
        exact absurd rfl (hsucc body count next rest)
    | .block (.act _ _) :: _ => exact .inr trivial
    | .block (.loop _ _) :: _ => exact .inr trivial
    | .loopEnd _ :: _ => exact .inr trivial

end Plan

/-- A bot on the tape with its plan. -/
structure Walker where
  orientation : Orientation
  polarity : Polarity
  position : Int
  plan : Plan
deriving DecidableEq, Repr

namespace Walker

/-- A bot before its first turn on a tape of `length` cells. -/
def new (b : Block) (length : Int64) (orientation : Orientation) (polarity : Polarity) :
    Walker :=
  { orientation
    polarity
    position := if orientation = .reversed then (length - 1).toInt else 0
    plan := [.block b] }

/-- What an action does: a move, or a change of the current cell for the arena to
make. -/
def perform (w : Walker) : Action → Walker × Option Mutation
  | .back =>
      ({ w with position := wrap64 (w.position + w.orientation.movement (-1)) }, none)
  | .forward =>
      ({ w with position := wrap64 (w.position + w.orientation.movement 1) }, none)
  | .increment => (w, some ⟨w.position, w.polarity.delta 1⟩)
  | .decrement => (w, some ⟨w.position, w.polarity.delta (-1)⟩)
  | .rest => (w, none)

/-- One turn. A bot that has nothing left to do does nothing. -/
def step (w : Walker) (cellIsZero : Bool) : Walker × Option Mutation :=
  match w.plan.turn cellIsZero with
  | (plan, some action) => { w with plan }.perform action
  | (plan, none) => ({ w with plan }, none)

end Walker

end TapeDuel
