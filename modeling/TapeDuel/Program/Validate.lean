import TapeDuel.Program.Instruction

/-!
# Checking stored programs

A compiled program is right by construction. One that comes back from storage is
checked first: its operations must be known, each loop instruction must name a partner
that names it back, starts must come before ends, and no loop may run a negative
number of times. The check looks at one instruction after the other and reports the
first flaw.
-/

namespace TapeDuel.Program

/-- What can be wrong with a stored program, and where. -/
inductive Flaw where
  | unknownOp (code : UInt8) (place : Nat)
  | targetOutOfRange (target : Int) (place : Nat)
  | unmatched (op : Op) (place : Nat) (other : Op) (target : Int)
  | wrongWay (op : Op) (place : Nat)
  | negativeIterations (place : Nat)
deriving DecidableEq, Repr

/-- The wording of a flaw. -/
def Flaw.message : Flaw → String
  | unknownOp code place => s!"bad program: unknown op {code.toNat} at {place}"
  | targetOutOfRange target place =>
      s!"bad program: target {target} out of range at {place}"
  | unmatched op place other target =>
    s!"bad program: {op.name} at {place} does not match {other.name} at {target}"
  | wrongWay op place => s!"bad program: {op.name} at {place} jumps the wrong way"
  | negativeIterations place => s!"bad program: negative iterations at {place}"

/-- The instruction at an operand, if the operand is a place of the program. -/
@[inline]
def at? (p : Program) (target : Int) : Option Instruction :=
  if 0 ≤ target then p[target.toNat]? else none

/-- The flaw of a loop instruction whose operation has the partner `partner`. -/
def loopFlaw? (p : Program) (place : Nat) (i : Instruction) (partner : Op) :
    Option Flaw :=
  match p.at? i.target with
  | none => some (.targetOutOfRange i.target place)
  | some other =>
    if other.target ≠ place ∨ other.op ≠ partner then
      some (.unmatched i.op place other.op i.target)
    else if i.op.opensLoop ≠ decide ((place : Int) < i.target) then
      some (.wrongWay i.op place)
    else if i.op = .repeatEnd ∧ i.iterations < 0 then
      some (.negativeIterations place)
    else none

/-- The flaw of the instruction `i` at `place`, if it has one. -/
def instructionFlaw? (p : Program) (place : Nat) (i : Instruction) : Option Flaw :=
  match i.op with
  | .unknown code _ => some (.unknownOp code place)
  | op =>
    match op.partner? with
    | none => none
    | some partner => p.loopFlaw? place i partner

/-- The first flaw of a program. -/
def flaw? (p : Program) : Option Flaw :=
  p.toList.zipIdx.findSome? fun (i, place) => p.instructionFlaw? place i

/-- A program that passes the check, or its first flaw. -/
def validate (p : Program) : Except Flaw Unit :=
  match p.flaw? with
  | some flaw => .error flaw
  | none => .ok ()

end TapeDuel.Program
