import TapeDuel.Config.Scalar
import TapeDuel.Number.Floating

/-!
# Numerals of configuration files

A numeral is a whole number in one of four bases, or a decimal number with a point or
an exponent. Underscores may stand between digits. A letter behind a decimal numeral
multiplies it by a power of a thousand, with an `i` behind it by a power of 1024, and
makes a whole number of it.
-/

namespace TapeDuel.Config.Numeral

/-- Whether a byte is a digit of the base or an underscore. -/
def inDigits (base : Nat) (b : UInt8) : Bool :=
  b = Text.byte '_' || (Number.digitValue? base b).isSome

/-- A run of digits and underscores, and what follows it. -/
def takeRun (base : Nat) (t : Text) : Text × Text :=
  (t.takeWhile (inDigits base), t.dropWhile (inDigits base))

/-- Whether each underscore of a run has a digit behind it. -/
def wellSeparated (run : Text) : Bool :=
  run.getLast? ≠ some (Text.byte '_')
    && (run.zip (run.drop 1)).all fun (a, b) => !(a = Text.byte '_' && b = Text.byte '_')

/-- The digits of a run, if it holds one and its underscores are well placed. -/
def digits? (base : Nat) (run : Text) : Option (List Nat) :=
  let digits := run.filterMap (Number.digitValue? base)
  if digits.isEmpty || !wellSeparated run then none else some digits

/-- The number that digits spell. -/
def value (base : Nat) (digits : List Nat) : Nat :=
  digits.foldl (fun n d => base * n + d) 0

/-- The bases that a numeral may name by the letter behind its zero. -/
def baseOf? (b : UInt8) : Option Nat :=
  if b = Text.byte 'x' || b = Text.byte 'X' then some 16
  else if b = Text.byte 'o' then some 8
  else if b = Text.byte 'b' then some 2
  else none

/-- The power of a thousand that a letter stands for. -/
def powerOf? (b : UInt8) : Option Nat :=
  if b = Text.byte 'K' then some 1
  else if b = Text.byte 'M' then some 2
  else if b = Text.byte 'G' then some 3
  else if b = Text.byte 'T' then some 4
  else if b = Text.byte 'P' then some 5
  else none

/-- The largest exponent that a decimal number may have. -/
def maxExponent : Int :=
  100000

/-- A decimal number, unless it is too large or too small. -/
def fraction? (digits : List Nat) (exponent : Int) : Option Scalar :=
  let n := value 10 digits
  let lead := exponent + ((digits.dropWhile (· = 0)).length : Int) - 1
  if n ≠ 0 && (maxExponent < lead || lead < -maxExponent) then none
  else some (.float (Fraction.normal ⟨n, exponent⟩))

/-- A decimal number times a power. -/
def scaled? (digits : List Nat) (places factor : Nat) : Option Scalar :=
  let n := value 10 digits * factor
  let d := Nat.pow 10 places
  if n % d = 0 then some (.int (n / d : Nat)) else none

/-- The exponent at the start of a text, with its sign, and what follows it. -/
def takeExponent (t : Text) : Option (Int × Text) := do
  let (negative, t) := Number.takeSign t
  let (run, rest) := takeRun 10 t
  let n : Int := value 10 (← digits? 10 run)
  return (if negative then -n else n, rest)

/-- What may stand behind the digits of a decimal number: `places` of them stand
behind its point, if it has one. -/
def finish (digits : List Nat) (point : Bool) (places : Nat) (t : Text) :
    Option (Scalar × Text) := do
  match t with
  | b :: rest =>
    match powerOf? b with
    | some power =>
      let binary := rest.head? = some (Text.byte 'i')
      let factor := Nat.pow (if binary then 1024 else 1000) power
      return (← scaled? digits places factor, if binary then rest.drop 1 else rest)
    | none =>
      if b = Text.byte 'e' || b = Text.byte 'E' then
        let (exponent, rest) ← takeExponent rest
        return (← fraction? digits (exponent - places), rest)
      else if point then return (← fraction? digits (-places), t)
      else return (.int (value 10 digits), t)
  | [] =>
    if point then return (← fraction? digits (-places), [])
    else return (.int (value 10 digits), [])

/-- The decimal number at the start of a text, and what follows it. A whole number
other than zero does not start with zero. -/
def takeDecimal (t : Text) : Option (Scalar × Text) := do
  let (run, rest) := takeRun 10 t
  match rest with
  | b :: behind =>
    if b = Text.byte '.' && behind.head? ≠ some (Text.byte '.') then
      let (places, rest) := takeRun 10 behind
      if !wellSeparated run || !wellSeparated places then none
      let whole := run.filterMap (Number.digitValue? 10)
      let places := places.filterMap (Number.digitValue? 10)
      finish (whole ++ places) true places.length rest
    else if run.head? = some (Text.byte '0') && b ≠ Text.byte 'e'
        && b ≠ Text.byte 'E' then
      if run.length = 1 then return (.int 0, rest) else none
    else finish (← digits? 10 run) false 0 rest
  | [] =>
    if run.head? = some (Text.byte '0') && run.length ≠ 1 then none
    else finish (← digits? 10 run) false 0 []

/-- The numeral at the start of a text, and what follows it. -/
def take (t : Text) : Option (Scalar × Text) :=
  match t with
  | z :: x :: more =>
    match if z = Text.byte '0' then baseOf? x else none with
    | some base =>
      let (run, rest) := takeRun base more
      (digits? base run).map fun digits => (.int (value base digits), rest)
    | none =>
      if z = Text.byte '0' && x = Text.byte '_' then none else takeDecimal t
  | _ => takeDecimal t

end TapeDuel.Config.Numeral
