import TapeDuel.Text.Basic

/-!
# Packed tables

Large tables of character data are kept as text, with five hexadecimal digits for
every number.
-/

namespace TapeDuel.Packed

/-- The value of a hexadecimal digit; other characters count as zero. -/
def digit (c : Char) : Nat :=
  if c.isDigit then c.toNat - 48
  else if 'A' ≤ c && c ≤ 'F' then c.toNat - 55
  else 0

/-- The numbers that digits stand for, five for each. -/
def unpack : List Char → List Nat
  | a :: b :: c :: d :: e :: rest =>
    ((((digit a * 16 + digit b) * 16 + digit c) * 16 + digit d) * 16 + digit e)
      :: unpack rest
  | _ => []

/-- The numbers of a table, line by line. -/
def numbers (lines : List String) : List Nat :=
  lines.flatMap fun line => unpack line.toList

/-- The value of the range that a number lies in, among ranges that each have a value
behind them. -/
def classOf? (n : Nat) : List Nat → Option Nat
  | low :: high :: value :: rest =>
      if low ≤ n && n ≤ high then some value else classOf? n rest
  | _ => none

/-- Whether a number lies in one of some ranges. -/
def inRanges (n : Nat) : List Nat → Bool
  | low :: high :: rest => (low ≤ n && n ≤ high) || inRanges n rest
  | _ => false

end TapeDuel.Packed
