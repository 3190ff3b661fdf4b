import TapeDuel.Binary.Item
import TapeDuel.Failure
import TapeDuel.Word

/-!
# Stored programs

A program is stored as an array of arrays of three integers: code, target, iterations.
Reading takes any item that holds such numbers and then checks the program, so what
reading returns is valid.
-/

namespace TapeDuel.Binary

/-- The shortest item of an integer. -/
def writeInt (i : Int) : Text :=
  if 0 ≤ i then writeHead 0 i.toNat else writeHead 1 (-1 - i).toNat

/-- The item of an instruction. -/
def writeInstruction (i : Instruction) : Text :=
  writeHead 4 3 ++ writeHead 0 i.op.code.toNat ++ writeInt i.target
    ++ writeInt i.iterations

/-- The item of a program. -/
def writeProgram (p : Program) : Text :=
  writeHead 4 p.size ++ p.toList.flatMap writeInstruction

/-- An operand: a 64-bit integer. -/
def operand? (item : Item) : Option Int :=
  match item.toInt? with
  | some i => if fits64 i then some i else none
  | none => none

/-- The code of an operation: one byte. -/
def code? (item : Item) : Option UInt8 :=
  match item.toInt? with
  | some i => if 0 ≤ i ∧ i < 256 then some (UInt8.ofNat i.toNat) else none
  | none => none

/-- The instruction of an item. An empty place holds the instruction of zeros. -/
def instruction? (item : Item) : Option Instruction :=
  match item.elements? with
  | some none => some ⟨.ofCode 0, 0, 0⟩
  | some (some [op, target, iterations]) =>
    match code? op, operand? target, operand? iterations with
    | some op, some target, some iterations => some ⟨.ofCode op, target, iterations⟩
    | _, _, _ => none
  | _ => none

/-- The program of an item. An empty place holds the empty program. -/
def program? (item : Item) : Option Program :=
  match item.elements? with
  | some none => some #[]
  | some (some items) => (items.mapM instruction?).map List.toArray
  | none => none

/-- Reads a stored program and checks it. -/
def readProgram (t : Text) : Except Failure Program :=
  match read t with
  | none => .error (.corrupt .malformed)
  | some (item, rest) =>
    if rest ≠ [] then .error (.corrupt .extraneous)
    else
      match program? item with
      | none => .error (.corrupt .unfit)
      | some p =>
        match p.validate with
        | .error flaw => .error (.badProgram flaw)
        | .ok () => .ok p

end TapeDuel.Binary
