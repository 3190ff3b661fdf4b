import TapeDuel.Text.Basic

/-!
# Decimal numerals

`write` gives the shortest numeral of a number, `read` the value of a run of digits.
Reading takes any number of leading zeros, so `read` undoes `write` and not the other
way round.
-/

namespace TapeDuel.Decimal

/-- Whether a byte is one of the ten ASCII digits. -/
def isDigit (b : UInt8) : Bool :=
  48 ≤ b && b ≤ 57

/-- The digit that stands for `d`, for `d` below ten. -/
def digit (d : Nat) : UInt8 :=
  UInt8.ofNat (48 + d)

/-- The shortest numeral of `n`, most significant digit first. -/
def write (n : Nat) : Text :=
  if n < 10 then [digit n] else write (n / 10) ++ [digit (n % 10)]

/-- The value of a run of digits. -/
def read (digits : Text) : Nat :=
  digits.foldl (fun n b => 10 * n + (b.toNat - 48)) 0

/-- The numeral of an integer, with a minus sign below zero. -/
def writeInt (i : Int) : Text :=
  if i < 0 then Text.byte '-' :: write i.natAbs else write i.natAbs

theorem toNat_digit {d : Nat} (h : d < 10) : (digit d).toNat - 48 = d := by
  simp only [digit, UInt8.toNat_ofNat']
  omega

theorem read_append_digit (t : Text) {d : Nat} (h : d < 10) :
    read (t ++ [digit d]) = 10 * read t + d := by
  simp [read, List.foldl_append, toNat_digit h]

/-- Reading a written numeral gives the number back. -/
theorem read_write (n : Nat) : read (write n) = n := by
  induction n using Nat.strongRecOn with
  | _ n ih =>
    rw [write]
    split
    · next h => simpa [read] using toNat_digit h
    · next h =>
      rw [read_append_digit _ (Nat.mod_lt _ (by decide)), ih _ (by omega)]
      omega

end TapeDuel.Decimal
