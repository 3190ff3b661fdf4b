import TapeDuel.Number.Integer

/-!
# Floating-point numbers in words

A floating-point number is held by its bits: a sign, an exponent and a mantissa, as
wide as its format says. A word spells such a number in decimal, with or without a
fraction and an exponent of ten; or in hexadecimal, always with an exponent of two; or
as infinity or not-a-number. A finite word stands for an exact ratio, and the number
read is the one nearest to that ratio, ties going to the even mantissa. A ratio beyond
the largest number is out of range; one too small for the smallest is zero.
-/

namespace TapeDuel

/-- The layout of a binary floating-point number. -/
structure FloatFormat where
  /-- Bits of the mantissa, the leading one included. -/
  precision : Nat
  /-- Bits of the exponent. -/
  exponentBits : Nat
deriving DecidableEq, Repr

namespace FloatFormat

/-- Single precision. -/
def single : FloatFormat := ⟨24, 8⟩

/-- Double precision. -/
def double : FloatFormat := ⟨53, 11⟩

/-- The bits of positive infinity. -/
def infinity (f : FloatFormat) : Nat :=
  (Nat.pow 2 f.exponentBits - 1) * Nat.pow 2 (f.precision - 1)

/-- The sign bit. -/
def signBit (f : FloatFormat) : Nat :=
  Nat.pow 2 (f.exponentBits + f.precision - 1)

/-- The exponent of the last place of the smallest numbers. -/
def lowest (f : FloatFormat) : Int :=
  3 - (Nat.pow 2 (f.exponentBits - 1) : Nat) - (f.precision : Int)

/-- The bits of a magnitude under a sign. -/
def withSign (f : FloatFormat) (negative : Bool) (bits : Nat) : Nat :=
  if negative then f.signBit + bits else bits

/-- The quotient rounded to the nearest whole number, a half to the even one. -/
def roundDiv (num den : Nat) : Nat :=
  let q := num / den
  let r := num % den
  if 2 * r < den || (2 * r = den && q % 2 = 0) then q else q + 1

/-- The largest `e` with `2 ^ e ≤ num / den`, for a positive ratio. -/
def log2Ratio (num den : Nat) : Int :=
  let l : Int := (num.log2 : Int) - den.log2
  let below :=
    if 0 ≤ l then den * Nat.pow 2 l.toNat ≤ num else den ≤ num * Nat.pow 2 (-l).toNat
  if below then l else l - 1

/-- The bits of the number nearest to the ratio; none if it is too large for the
format. -/
def nearest? (f : FloatFormat) (num den : Nat) : Option Nat :=
  if num = 0 then some 0
  else
    let place := max (log2Ratio num den - (f.precision - 1 : Nat)) f.lowest
    let mantissa :=
      if 0 ≤ place then roundDiv num (den * Nat.pow 2 place.toNat)
      else roundDiv (num * Nat.pow 2 (-place).toNat) den
    let bits := (place - f.lowest).toNat * Nat.pow 2 (f.precision - 1) + mantissa
    if bits < f.infinity then some bits else none

/-- The bits of not-a-number that readers give. -/
def notANumber (f : FloatFormat) : Nat :=
  f.infinity + Nat.pow 2 (f.precision - 2) + (if f = double then 1 else 0)

/-- The magnitude of finite bits as `mantissa * 2 ^ place`. -/
def decode (f : FloatFormat) (magnitude : Nat) : Nat × Int :=
  let exponent := magnitude / Nat.pow 2 (f.precision - 1)
  let fraction := magnitude % Nat.pow 2 (f.precision - 1)
  if exponent = 0 then (fraction, f.lowest)
  else (fraction + Nat.pow 2 (f.precision - 1), f.lowest + (exponent - 1 : Nat))

/-- The same number in double precision. -/
def toDouble (f : FloatFormat) (bits : Nat) : Nat :=
  let negative := f.signBit ≤ bits
  let magnitude := bits % f.signBit
  if magnitude = f.infinity then double.withSign negative double.infinity
  else if f.infinity < magnitude then double.notANumber
  else
    let (mantissa, place) := f.decode magnitude
    let exact :=
      if 0 ≤ place then double.nearest? (mantissa * Nat.pow 2 place.toNat) 1
      else double.nearest? mantissa (Nat.pow 2 (-place).toNat)
    double.withSign negative (exact.getD 0)

end FloatFormat

namespace Number

/-- A byte with ASCII capitals made small. -/
def lower (b : UInt8) : UInt8 :=
  if 65 ≤ b && b ≤ 90 then b + 32 else b

/-- The value of a byte as a digit of the given base. -/
def digitValue? (base : Nat) (b : UInt8) : Option Nat :=
  if Decimal.isDigit b && b.toNat - 48 < base then some (b.toNat - 48)
  else if base = 16 && 97 ≤ lower b && lower b ≤ 102 then some ((lower b).toNat - 87)
  else none

/-- The digits of a mantissa: their value, how many there are, and how many stand
after the point. -/
structure Mantissa where
  value : Nat := 0
  digits : Nat := 0
  point : Bool := false
  fraction : Nat := 0

/-- Reads a mantissa up to the first byte that does not belong to it. Separators count
for nothing here; `separated` says where they may stand. -/
def readMantissa (base : Nat) (m : Mantissa) : Text → Mantissa × Text
  | [] => (m, [])
  | b :: rest =>
    if b = Text.byte '_' then readMantissa base m rest
    else if b = Text.byte '.' then
      if m.point then (m, b :: rest) else readMantissa base { m with point := true } rest
    else
      match digitValue? base b with
      | some d =>
        readMantissa base
          { m with
            value := base * m.value + d
            digits := m.digits + 1
            fraction := if m.point then m.fraction + 1 else m.fraction } rest
      | none => (m, b :: rest)

/-- The value of an exponent's digits. From ten thousand on further digits are passed
over: no format reaches that far. -/
def readExponent (n : Nat) : Text → Option Nat
  | [] => some n
  | b :: rest =>
    if b = Text.byte '_' then readExponent n rest
    else if Decimal.isDigit b then
      readExponent (if n < 10000 then 10 * n + (b.toNat - 48) else n) rest
    else none

/-- What stands before a separator. -/
inductive Before where
  | digit
  | separator
  | other
deriving DecidableEq

/-- Whether each separator has a digit, or the mark of the base, before it and a digit
after it. -/
def separated (base : Nat) (before : Before) : Text → Bool
  | [] => before ≠ .separator
  | b :: rest =>
    if (digitValue? base b).isSome then separated base .digit rest
    else if b = Text.byte '_' then before = .digit && separated base .separator rest
    else before ≠ .separator && separated base .other rest

/-- The ratio `value * radix ^ exponent`. -/
def scaled (radix value : Nat) (exponent : Int) : Nat × Nat :=
  if 0 ≤ exponent then (value * Nat.pow radix exponent.toNat, 1)
  else (value, Nat.pow radix (-exponent).toNat)

/-- The exponent after a mantissa: zero if there is none and `needed` is not set. -/
def exponentAfter (mark : UInt8) (needed : Bool) (rest : Text) : Option Int :=
  match rest with
  | [] => if needed then none else some 0
  | b :: rest =>
    if lower b ≠ mark then none
    else
      let (negative, digits) := takeSign rest
      match digits with
      | d :: _ =>
        if Decimal.isDigit d then
          (readExponent 0 digits).map fun n => if negative then -(n : Int) else n
        else none
      | [] => none

/-- The ratio that an unsigned decimal or hexadecimal word stands for. -/
def readRatio? (word : Text) : Option (Nat × Nat) := do
  let hexadecimal :=
    match word with
    | z :: x :: _ :: _ => z = Text.byte '0' && lower x = Text.byte 'x'
    | _ => false
  let body := if hexadecimal then word.drop 2 else word
  let base := if hexadecimal then 16 else 10
  let (m, rest) := readMantissa base {} body
  if m.digits = 0 then none
  else
    let exponent ← exponentAfter (Text.byte (if hexadecimal then 'p' else 'e'))
        hexadecimal rest
    if !separated base (if hexadecimal then .digit else .other) body then none
    else if hexadecimal then scaled 2 m.value (exponent - 4 * m.fraction)
    else scaled 10 m.value (exponent - m.fraction)

/-- The bits of the floating-point number that a word spells. -/
def readFloat (f : FloatFormat) (word : Text) : Except NumberFlaw Nat :=
  let (negative, body) := takeSign word
  let name := body.map lower
  if name = Text.ofString "inf" || name = Text.ofString "infinity" then
    .ok (f.withSign negative f.infinity)
  else if word.map lower = Text.ofString "nan" then .ok f.notANumber
  else
    match readRatio? body with
    | none => .error .malformed
    | some (num, den) =>
      match f.nearest? num den with
      | some bits => .ok (f.withSign negative bits)
      | none => .error .outOfRange

end Number

end TapeDuel
