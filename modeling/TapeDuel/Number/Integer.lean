import TapeDuel.Text.Decimal

/-!
# Whole numbers in words

A word spells a whole number of a given width when it is a run of digits, with a sign
before it if the number is signed, and the value fits. Two things can be wrong, and
the word is read from the left: a number that has grown past every value of its width
is out of range, whatever follows.
-/

namespace TapeDuel

/-- Why a word is no number of the wanted kind. -/
inductive NumberFlaw where
  | malformed
  | outOfRange
deriving DecidableEq, Repr

namespace NumberFlaw

/-- The flaw in words. -/
def describe : NumberFlaw → String
  | malformed => "invalid syntax"
  | outOfRange => "value out of range"

end NumberFlaw

namespace Number

/-- Reads digits onto the value `n`, as long as it stays below `2 ^ bits`. -/
def readDigits (bits : Nat) (n : Nat) : Text → Except NumberFlaw Nat
  | [] => .ok n
  | b :: rest =>
    if Decimal.isDigit b then
      let m := 10 * n + (b.toNat - 48)
      if m < Nat.pow 2 bits then readDigits bits m rest else .error .outOfRange
    else .error .malformed

/-- The unsigned number of `bits` bits that a word spells. -/
def readUnsigned (bits : Nat) (word : Text) : Except NumberFlaw Nat :=
  match word with
  | [] => .error .malformed
  | digits => readDigits bits 0 digits

/-- The sign before a numeral, and the rest of the word. -/
def takeSign (word : Text) : Bool × Text :=
  match word with
  | b :: rest =>
    if b = Text.byte '-' then (true, rest)
    else if b = Text.byte '+' then (false, rest)
    else (false, b :: rest)
  | [] => (false, [])

/-- The signed number of `bits` bits that a word spells. -/
def readSigned (bits : Nat) (word : Text) : Except NumberFlaw Int := do
  let (negative, digits) := takeSign word
  let n ← readUnsigned bits digits
  if negative then
    if n ≤ Nat.pow 2 (bits - 1) then return -(n : Int) else throw .outOfRange
  else
    if n < Nat.pow 2 (bits - 1) then return (n : Int) else throw .outOfRange

end Number

end TapeDuel
