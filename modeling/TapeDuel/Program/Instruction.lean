import TapeDuel.Text.Decimal

/-!
# Instructions

A program is an array of instructions, and an instruction is an operation with two
operands. Loop instructions name the place of their partner in `target`; the end of a
counted loop also holds its number of `iterations`. All other operands of a compiled
program are zero. Programs read from storage may hold anything, unknown operations
included, so nothing here assumes more than that.
-/

namespace TapeDuel

/-- What an instruction does. Codes that no operation owns are kept, so that every
stored program can be shown and written back. -/
inductive Op where
  | moveBack
  | moveForward
  | increment
  | decrement
  | rest
  | whileStart
  | whileEnd
  | repeatStart
  | repeatEnd
  | unknown (code : UInt8) (unassigned : code = 0 ∨ 9 < code)
deriving DecidableEq, Repr

instance : Inhabited Op := ⟨.rest⟩

namespace Op

/-- The stored code of an operation. -/
def code : Op → UInt8
  | moveBack => 1
  | moveForward => 2
  | increment => 3
  | decrement => 4
  | rest => 5
  | whileStart => 6
  | whileEnd => 7
  | repeatStart => 8
  | repeatEnd => 9
  | unknown code _ => code

/-- The operation with a given code. -/
def ofCode (code : UInt8) : Op :=
  if h : code = 0 ∨ 9 < code then unknown code h
  else if code = 1 then moveBack
  else if code = 2 then moveForward
  else if code = 3 then increment
  else if code = 4 then decrement
  else if code = 5 then rest
  else if code = 6 then whileStart
  else if code = 7 then whileEnd
  else if code = 8 then repeatStart
  else repeatEnd

/-- The name of an operation in listings and error messages. -/
def name : Op → String
  | moveBack => "MoveBack"
  | moveForward => "MoveForward"
  | increment => "Increment"
  | decrement => "Decrement"
  | rest => "SkipExecution"
  | whileStart => "StartWhileNotZero"
  | whileEnd => "EndWhileNotZero"
  | repeatStart => "StartFor"
  | repeatEnd => "EndFor"
  | unknown code _ => s!"Op({code.toNat})"

/-- The two ends of a counted loop only keep count: they never take a turn. -/
def isLoopControl : Op → Bool
  | repeatStart | repeatEnd => true
  | _ => false

/-- The operation at the other end of a loop. -/
def partner? : Op → Option Op
  | whileStart => some whileEnd
  | whileEnd => some whileStart
  | repeatStart => some repeatEnd
  | repeatEnd => some repeatStart
  | _ => none

/-- Whether the operation opens a loop. -/
def opensLoop : Op → Bool
  | whileStart | repeatStart => true
  | _ => false

theorem ofCode_code (op : Op) : ofCode op.code = op := by
  cases op with
  | unknown value h => simp [Op.code, ofCode, h]
  | _ => decide

end Op

/-- An operation with its operands. -/
structure Instruction where
  op : Op
  target : Int
  iterations : Int
deriving DecidableEq, Repr, Inhabited

namespace Instruction

/-- An instruction without operands. -/
def plain (op : Op) : Instruction :=
  ⟨op, 0, 0⟩

/-- An end of a loop, with the place of the other end. -/
def linked (op : Op) (target : Nat) : Instruction :=
  ⟨op, target, 0⟩

/-- The end of a counted loop. -/
def repeatEnd (target iterations : Nat) : Instruction :=
  ⟨.repeatEnd, target, iterations⟩

/-- One line of a listing, without the place: the operands appear where the operation
uses them. -/
def describe (i : Instruction) : String :=
  match i.op with
  | .repeatEnd => s!"{i.op.name} -> {i.target} x{i.iterations}"
  | .whileStart | .whileEnd | .repeatStart => s!"{i.op.name} -> {i.target}"
  | op => op.name

/-- The source text of one instruction. Places are not written: they follow from the
nesting. Unknown operations have no source. -/
def render (i : Instruction) : Text :=
  match i.op with
  | .moveBack => [Text.byte '<']
  | .moveForward => [Text.byte '>']
  | .increment => [Text.byte '+']
  | .decrement => [Text.byte '-']
  | .rest => [Text.byte '.']
  | .whileStart => [Text.byte '[']
  | .whileEnd => [Text.byte ']']
  | .repeatStart => [Text.byte '(']
  | .repeatEnd => Text.byte ')' :: Text.byte '*' :: Decimal.writeInt i.iterations
  | .unknown _ _ => []

end Instruction

/-- A compiled bot. -/
abbrev Program := Array Instruction

namespace Program

/-- How often an operation occurs. -/
def countOp (p : Program) (op : Op) : Nat :=
  p.countP (·.op == op)

/-- The listing of a program, one numbered line for each instruction. -/
def listing (p : Program) : String :=
  String.join <| p.toList.zipIdx.map fun (i, at_) =>
    let number := toString at_
    "".pushn ' ' (4 - number.length) ++ number ++ "  " ++ i.describe ++ "\n"

/-- The shortest source that compiles to a program. -/
def render (p : Program) : Text :=
  p.toList.flatMap Instruction.render

end Program

end TapeDuel
