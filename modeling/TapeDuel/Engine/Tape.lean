import TapeDuel.Engine.Fault
import TapeDuel.Engine.Side

/-!
# The tape

A tape is a row of 8-bit cells that count round. Its first cell is the flag of side A,
its last the flag of side B. Both flags start at -128, half way round, and all other
cells at zero.
-/

namespace TapeDuel

/-- The cells of a round. -/
abbrev Tape := Array Int8

/-- A change of one cell. -/
structure Mutation where
  index : Int
  delta : Int8
deriving DecidableEq, Repr

namespace Tape

/-- What both flags hold at the start. -/
def flagValue : Int8 :=
  -128

/-- A tape of `length` cells with both flags set. -/
def new (length : Nat) : Tape :=
  ((Array.replicate length 0).setIfInBounds 0 flagValue).setIfInBounds
    (length - 1) flagValue

/-- The most cells that memory can address. -/
def maxLength : Nat :=
  281474976710656

/-- A new tape, unless it would have no cell for a flag or more cells than memory. -/
def new? (length : Int64) : Except Fault Tape :=
  if length < 1 then .error .noCell
  else if maxLength < length.toNatClampNeg then .error .noRoom
  else .ok (new length.toNatClampNeg)

/-- The cell at an index. -/
@[inline]
def cell (t : Tape) (index : Int) : Except Fault Int8 :=
  if 0 ≤ index then
    match t[index.toNat]? with
    | some value => .ok value
    | none => .error .noCell
  else .error .noCell

/-- Whether the cell at an index is zero. -/
@[inline]
def isZero (t : Tape) (index : Int) : Except Fault Bool :=
  match t.cell index with
  | .ok value => .ok (value == 0)
  | .error fault => .error fault

/-- Adds to a cell; cells count round. -/
@[inline]
def apply (t : Tape) (m : Mutation) : Except Fault Tape :=
  if 0 ≤ m.index ∧ m.index.toNat < t.size then
    .ok (t.modify m.index.toNat (· + m.delta))
  else .error .noCell

/-- Where the flag of a side is. -/
@[inline]
def flagIndex (t : Tape) : Side → Nat
  | .a => 0
  | .b => t.size - 1

/-- Whether the flag of a side is zero. -/
@[inline]
def flagZero (t : Tape) (side : Side) : Except Fault Bool :=
  match t[t.flagIndex side]? with
  | some value => .ok (value == 0)
  | none => .error .noCell

/-- The cells in brackets. -/
def describe (t : Tape) : String :=
  "[" ++ " ".intercalate (t.toList.map fun cell => toString cell.toInt) ++ "]"

end Tape

end TapeDuel
