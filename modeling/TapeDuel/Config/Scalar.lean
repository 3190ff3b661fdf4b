import TapeDuel.Text.Basic

/-!
# Scalars of configuration files

What a configuration file says in the end are scalars: truth values, numbers, texts
and null. Whole numbers and fractions are different things, so that `1` and `1.0` do
not agree, but they are compared as the numbers they are.
-/

namespace TapeDuel.Config

/-- A decimal number `digits * 10 ^ exponent`. -/
structure Fraction where
  digits : Int
  exponent : Int
deriving DecidableEq, Repr

namespace Fraction

/-- The fraction of a whole number. -/
def ofInt (i : Int) : Fraction :=
  ⟨i, 0⟩

/-- Moves the zeros at the end of the digits into the exponent. -/
def strip (d : Fraction) : Nat → Fraction
  | 0 => d
  | tries + 1 =>
    if d.digits = 0 then ⟨0, 0⟩
    else if d.digits % 10 = 0 then strip ⟨d.digits / 10, d.exponent + 1⟩ tries
    else d

/-- The one form of a number in which its digits do not end in zero. -/
def normal (d : Fraction) : Fraction :=
  d.strip (d.digits.natAbs.log2 + 1)

/-- The digits of a number when its last one stands at the place `exponent`, which is
not above its own. -/
def digitsAt (d : Fraction) (exponent : Int) : Int :=
  d.digits * (Nat.pow 10 (d.exponent - exponent).toNat : Nat)

/-- How two numbers compare. -/
def compare (d e : Fraction) : Ordering :=
  let place := min d.exponent e.exponent
  Ord.compare (d.digitsAt place) (e.digitsAt place)

/-- The sum of two numbers. -/
def add (d e : Fraction) : Fraction :=
  let place := min d.exponent e.exponent
  normal ⟨d.digitsAt place + e.digitsAt place, place⟩

/-- The product of two numbers. -/
def mul (d e : Fraction) : Fraction :=
  normal ⟨d.digits * e.digits, d.exponent + e.exponent⟩

/-- The number with the other sign. -/
def neg (d : Fraction) : Fraction :=
  ⟨-d.digits, d.exponent⟩

end Fraction

/-- How a number or a text may be bounded by another. -/
inductive Relation where
  | less
  | atMost
  | greater
  | atLeast
  | unequal
deriving DecidableEq, Repr

/-- Whether a comparison comes out as the relation says. -/
def Relation.holds : Relation → Ordering → Bool
  | less, o => o = .lt
  | atMost, o => o ≠ .gt
  | greater, o => o = .gt
  | atLeast, o => o ≠ .lt
  | unequal, o => o ≠ .eq

/-- A scalar. -/
inductive Scalar where
  | null
  | bool (value : Bool)
  | int (value : Int)
  | float (value : Fraction)
  | string (value : Text)
  | bytes (value : Text)
deriving DecidableEq, Repr

namespace Scalar

/-- The number that a scalar is. -/
def number? : Scalar → Option Fraction
  | int i => some (.ofInt i)
  | float d => some d
  | _ => none

/-- How two texts compare, byte by byte. -/
def compareBytes : Text → Text → Ordering
  | [], [] => .eq
  | [], _ :: _ => .lt
  | _ :: _, [] => .gt
  | a :: s, b :: t => if a < b then .lt else if b < a then .gt else compareBytes s t

/-- How two scalars compare, if they are of one sort. -/
def compare? : Scalar → Scalar → Option Ordering
  | string s, string t | bytes s, bytes t => some (compareBytes s t)
  | null, null => some .eq
  | bool a, bool b => if a = b then some .eq else none
  | a, b =>
    match a.number?, b.number? with
    | some d, some e => some (d.compare e)
    | _, _ => none

end Scalar

end TapeDuel.Config
