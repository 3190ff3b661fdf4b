import TapeDuel.Number.Floating

/-!
# Shortest decimals

A double is printed with the fewest digits that read back as the same number; among
decimals of that length the one nearest to it is taken. Reading rounds to the nearest
double, so the decimals that read back are those between the midpoints to the two
neighbours, the midpoints included when the mantissa is even.
-/

namespace TapeDuel.Number

/-- A decimal `digits * 10 ^ exponent`. -/
structure Scientific where
  digits : Nat
  exponent : Int
deriving DecidableEq, Repr

/-- The decimals that read back as one double: from `low` to `high` around `value`, in
units of `2 ^ unit`. -/
structure Neighbourhood where
  low : Nat
  value : Nat
  high : Nat
  closed : Bool
  unit : Int

/-- The neighbourhood of a finite positive double. -/
def neighbourhood (magnitude : Nat) : Neighbourhood :=
  let (mantissa, place) := FloatFormat.double.decode magnitude
  let narrow := mantissa = 4503599627370496 && FloatFormat.double.lowest < place
  { low := 4 * mantissa - (if narrow then 1 else 2)
    value := 4 * mantissa
    high := 4 * mantissa + 2
    closed := mantissa % 2 = 0
    unit := place - 2 }

/-- Both sides of a comparison of `digits * 10 ^ exponent` with `x * 2 ^ unit`, as
whole numbers. -/
def balance (digits : Nat) (exponent : Int) (x : Nat) (unit : Int) : Nat × Nat :=
  (digits * Nat.pow 10 exponent.toNat * Nat.pow 2 (-unit).toNat,
    x * Nat.pow 2 unit.toNat * Nat.pow 10 (-exponent).toNat)

/-- Whether a decimal reads back. -/
def Neighbourhood.holds (n : Neighbourhood) (digits : Nat) (exponent : Int) : Bool :=
  let (l, low) := balance digits exponent n.low n.unit
  let (h, high) := balance digits exponent n.high n.unit
  if n.closed then low ≤ l && h ≤ high else low < l && h < high

/-- The nearest decimal of the grid `10 ^ exponent` that reads back, if one does. -/
def Neighbourhood.onGrid? (n : Neighbourhood) (exponent : Int) : Option Nat :=
  let (one, x) := balance 1 exponent n.value n.unit
  let below := x / one
  let rest := x % one
  match n.holds below exponent, n.holds (below + 1) exponent with
  | false, false => none
  | true, false => some below
  | false, true => some (below + 1)
  | true, true =>
    some (if 2 * rest < one || (2 * rest = one && below % 2 = 0) then below
      else below + 1)

/-- The first hit on the grids from `exponent` downwards. -/
def Neighbourhood.search (n : Neighbourhood) (exponent : Int) : Nat → Scientific
  | 0 => ⟨0, 0⟩
  | tries + 1 =>
    match n.onGrid? exponent with
    | some digits => ⟨digits, exponent⟩
    | none => n.search (exponent - 1) tries

/-- Moves the zeros at the end of the digits into the exponent. -/
def Scientific.strip (s : Scientific) : Nat → Scientific
  | 0 => s
  | tries + 1 =>
    if s.digits ≠ 0 && s.digits % 10 = 0 then
      strip ⟨s.digits / 10, s.exponent + 1⟩ tries
    else s

/-- The shortest decimal of a finite positive double. The search starts above its
leading digit and takes at most seventeen digits. -/
def shortest (magnitude : Nat) : Scientific :=
  let n := neighbourhood magnitude
  let top : Int := ((n.value.log2 : Int) + n.unit + 1) * 30103 / 100000 + 1
  (n.search top 21).strip 21

/-- How the digits of a number are laid out: positionally while the exponent of the
leading digit lies from `least` up to, not including, `limit`; else with an exponent
of at least `places` digits. -/
structure FloatStyle where
  least : Int
  limit : Int
  places : Nat
deriving Repr

/-- The layout in running text: up to six places before the point, down to four zeros
after it. -/
def FloatStyle.general : FloatStyle := ⟨-4, 6, 2⟩

/-- The layout in data: few numbers need an exponent. -/
def FloatStyle.data : FloatStyle := ⟨-6, 21, 1⟩

/-- Zeros. -/
def zeros (n : Nat) : Text :=
  List.replicate n (Text.byte '0')

/-- The digits laid out around the decimal point. -/
def FloatStyle.layout (style : FloatStyle) (s : Scientific) : Text :=
  let digits := Decimal.write s.digits
  let leading : Int := s.exponent + (digits.length - 1 : Nat)
  if leading < style.least || style.limit ≤ leading then
    let fraction :=
      match digits.drop 1 with
      | [] => []
      | rest => Text.byte '.' :: rest
    let e := Decimal.write leading.natAbs
    digits.take 1 ++ fraction
      ++ [Text.byte 'e', Text.byte (if leading < 0 then '-' else '+')]
      ++ zeros (style.places - e.length) ++ e
  else if leading < 0 then
    Text.ofString "0." ++ zeros (leading.natAbs - 1) ++ digits
  else if 0 ≤ s.exponent then digits ++ zeros s.exponent.toNat
  else
    let whole := leading.toNat + 1
    digits.take whole ++ Text.byte '.' :: digits.drop whole

/-- The text of a finite double. -/
def FloatStyle.write (style : FloatStyle) (bits : Nat) : Text :=
  let magnitude := bits % FloatFormat.double.signBit
  let sign : Text := if FloatFormat.double.signBit ≤ bits then [Text.byte '-'] else []
  sign ++ (if magnitude = 0 then [Text.byte '0'] else style.layout (shortest magnitude))

end TapeDuel.Number
