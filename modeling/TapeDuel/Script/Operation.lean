import TapeDuel.Script.Syntax

/-!
# Operations on the values of scripts

Numbers are whole or doubles; an operation with a double on one side is one on
doubles. Sequences can be strung together, repeated and cut. What an operation cannot
do is told in words.
-/

namespace TapeDuel.Script.Value

/-! ## Truth and order -/

/-- Whether a value counts as true. -/
def truth : Value → Bool
  | none => false
  | bool b => b
  | int i => i ≠ 0
  | float bits => bits % FloatFormat.double.signBit ≠ 0
  | v => v.length? ≠ some 0

/-- The numbers of a range, as numbers. -/
def numbersIn (low high step : Int) : List Int :=
  (List.range (stepsBetween low high step)).map fun (i : Nat) => low + step * i

mutual

/-- Whether two values are equal. -/
def equals : Value → Value → Bool
  | list xs, list ys | tuple xs, tuple ys => allEqual xs ys
  | dict xs, dict ys => xs.length = ys.length && allFound xs ys
  | range a b c, range d e f => numbersIn a b c = numbersIn d e f
  | method m v, method n w => m = n && v.equals w
  | a, b => a.sameKey b

/-- Whether values are equal, one after the other. -/
def allEqual : List Value → List Value → Bool
  | [], [] => true
  | x :: xs, y :: ys => x.equals y && allEqual xs ys
  | _, _ => false

/-- Whether a table has all entries of another one. -/
def allFound : List (Value × Value) → List (Value × Value) → Bool
  | [], _ => true
  | (k, v) :: rest, ys =>
    (match find? k ys with
      | some w => v.equals w
      | .none => false) && allFound rest ys

end

/-- How two texts compare, byte by byte. -/
def compareBytes : Text → Text → Ordering
  | [], [] => .eq
  | [], _ :: _ => .lt
  | _ :: _, [] => .gt
  | a :: s, b :: t => if a < b then .lt else if b < a then .gt else compareBytes s t

mutual

/-- How two values compare, if they do. -/
def order? : Value → Value → Option Ordering
  | bool a, bool b => some (compare a.toNat b.toNat)
  | text a, text b | bytes a, bytes b => some (compareBytes a b)
  | list xs, list ys | tuple xs, tuple ys => orderAll? xs ys
  | a, b =>
    match a.number?, b.number? with
    | some m, some n => some (compareRatios m n)
    | _, _ => .none

/-- How two sequences compare: as their first items do that differ. -/
def orderAll? : List Value → List Value → Option Ordering
  | [], [] => some .eq
  | [], _ :: _ => some .lt
  | _ :: _, [] => some .gt
  | x :: xs, y :: ys => if x.equals y then orderAll? xs ys else x.order? y

end

/-- The words for values that do not compare. -/
def unordered (operator : Operator) (v w : Value) : Text :=
  s!"{v.typeName} {operator.sign} {w.typeName} not implemented"

/-! ## Numbers -/

/-- The double with some bits. -/
def floating (bits : Nat) : Float :=
  Float.ofBits (UInt64.ofNat bits)

/-- A double as a value. -/
def ofFloat (x : Float) : Value :=
  float x.toBits.toNat

/-- The double nearest to a whole number, if it is not too large. -/
def nearestFloat? (i : Int) : Option Float :=
  (FloatFormat.double.nearest? i.natAbs 1).map fun bits =>
    floating (FloatFormat.double.withSign (i < 0) bits)

/-- A number as a double. -/
def toFloat : Value → Except Text (Option Float)
  | int i =>
    match nearestFloat? i with
    | some x => .ok (some x)
    | .none => .error "int too large to convert to float"
  | float bits => .ok (some (floating bits))
  | _ => .ok .none

/-- The remainder of two doubles with the sign of the second. -/
def floatModulo (x y : Float) : Float :=
  match ratioOfFloat? x.toBits.toNat, ratioOfFloat? y.toBits.toNat with
  | some (m, d), some (n, e) =>
    let rest := (m * e).tmod (n * d)
    let bits := (FloatFormat.double.nearest? rest.natAbs (d * e)).getD 0
    let z := floating (FloatFormat.double.withSign (rest < 0) bits)
    if rest ≠ 0 && (decide (m < 0) != decide (n < 0)) then z + y else z
  | _, _ => x - y * (x / y).floor

/-- A whole number as `width` bits. -/
def wordOf (width : Nat) (i : Int) : Nat :=
  (i % (Nat.pow 2 width : Nat)).toNat

/-- The whole number that `width` bits stand for. -/
def ofWord (width n : Nat) : Int :=
  if Nat.pow 2 (width - 1) ≤ n then (n : Int) - (Nat.pow 2 width : Nat) else n

/-- An operation on the bits of whole numbers. -/
def bitwise (operation : Nat → Nat → Nat) (i j : Int) : Int :=
  let width := max i.natAbs.log2 j.natAbs.log2 + 2
  ofWord width (operation (wordOf width i) (wordOf width j))

/-- The largest number of bits by which a number is moved. -/
def maxShift : Int := 511

/-- A number moved by some bits. -/
def shift (left : Bool) (i j : Int) : Except Text Value :=
  if j < 0 then .error s!"negative shift count: {j}"
  else if !left then
    .ok (int (i.fdiv (Nat.pow 2 (min j.toNat (i.natAbs.log2 + 1)) : Nat)))
  else if maxShift < j then .error s!"shift count too large: {j}"
  else .ok (int (i * (Nat.pow 2 j.toNat : Nat)))

/-- An operation on whole numbers. -/
def onInts (operator : Operator) (i j : Int) : Option (Except Text Value) :=
  match operator with
  | .add => some (.ok (int (i + j)))
  | .sub => some (.ok (int (i - j)))
  | .mul => some (.ok (int (i * j)))
  | .floorDivide =>
    some (if j = 0 then .error "floored division by zero" else .ok (int (i.fdiv j)))
  | .modulo =>
      some (if j = 0 then .error "integer modulo by zero" else .ok (int (i.fmod j)))
  | .union => some (.ok (int (bitwise Nat.lor i j)))
  | .both => some (.ok (int (bitwise Nat.land i j)))
  | .differ => some (.ok (int (bitwise Nat.xor i j)))
  | .shiftLeft => some (shift true i j)
  | .shiftRight => some (shift false i j)
  | _ => .none

/-- An operation on doubles. -/
def onFloats (operator : Operator) (x y : Float) : Option (Except Text Value) :=
  match operator with
  | .add => some (.ok (ofFloat (x + y)))
  | .sub => some (.ok (ofFloat (x - y)))
  | .mul => some (.ok (ofFloat (x * y)))
  | .divide =>
    some (if y == 0 then .error "floating-point division by zero"
      else .ok (ofFloat (x / y)))
  | .floorDivide =>
    some (if y == 0 then .error "floored division by zero"
      else .ok (ofFloat (x / y).floor))
  | .modulo =>
    some (if y == 0 then .error "floating-point modulo by zero"
      else .ok (ofFloat (floatModulo x y)))
  | _ => .none

/-! ## Sequences -/

/-- The largest number of bytes or items that repeating gives. -/
def maxRepeated : Nat := 1073741824

/-- A sequence repeated. -/
def repeated {α : Type} (items : List α) (n : Int) (wrap : List α → Value) :
    Except Text Value :=
  if maxRepeated ≤ items.length * n.toNat then
    .error s!"excessive repeat ({items.length} * {n} elements)"
  else .ok (wrap (List.replicate n.toNat items).flatten)

/-- What a value runs through when it is asked for its items one by one. -/
def items? : Value → Option (List Value)
  | list items | tuple items => some items
  | dict entries => some (entries.map Prod.fst)
  | range low high step => some (numbersOf low high step)
  | _ => .none

/-- Whether a text stands inside another one. -/
def isInside (part : Text) : Text → Bool
  | [] => part.isEmpty
  | b :: rest => part.isPrefixOf (b :: rest) || isInside part rest

/-- Whether a value is among those of another one. -/
def isWithin (v w : Value) : Option (Except Text Bool) :=
  match w, v with
  | list items, _ | tuple items, _ => some (.ok (items.any fun x => v.equals x))
  | dict entries, _ =>
    some (if v.isKey then .ok (find? v entries).isSome else .error v.keyWords)
  | text t, text part => some (.ok (isInside part t))
  | text _, _ =>
    some (.error s!"'in <string>' requires string as left operand, not {v.typeName}")
  | bytes t, bytes part => some (.ok (isInside part t))
  | bytes t, int i => some (.ok (t.any fun b => b.toNat = i))
  | range low high step, int i => some (.ok ((numbersIn low high step).contains i))
  | _, _ => .none

/-! ## Formats -/

/-- A value in place of a mark in a format. -/
def formatted (letter : UInt8) (v : Value) : Except Text Text :=
  if letter = Text.byte 's' then .ok v.printed
  else if letter = Text.byte 'r' then .ok v.shown
  else if letter = Text.byte 'd' || letter = Text.byte 'i' then
    match v with
    | int i => .ok (Decimal.writeInt i)
    | v => .error (Text.ofString "%" ++ [letter] ++ Text.ofString
        s!" format requires integer: got {v.typeName}, want int")
  else .error (Text.ofString "unknown conversion %" ++ [letter])

/-- A format with values in place of its marks. -/
def format : Text → List Value → Except Text Text
  | [], [] => .ok []
  | [], _ :: _ => .error "too many arguments for format string"
  | b :: rest, values =>
    if b ≠ Text.byte '%' then (format rest values).map (b :: ·)
    else
      match rest, values with
      | c :: more, values =>
        if c = Text.byte '%' then (format more values).map (c :: ·)
        else
          match values with
          | [] => .error "not enough arguments for format string"
          | v :: values => do
            let written ← formatted c v
            return written ++ (← format more values)
      | [], [] => .error "not enough arguments for format string"
      | [], _ :: _ => .error "incomplete format"

/-! ## Operators -/

/-- What an operator does that is not only about numbers. -/
def onSequences (operator : Operator) (v w : Value) : Option (Except Text Value) :=
  match operator, v, w with
  | .add, text s, text t => some (.ok (text (s ++ t)))
  | .add, bytes s, bytes t => some (.ok (bytes (s ++ t)))
  | .add, list xs, list ys => some (.ok (list (xs ++ ys)))
  | .add, tuple xs, tuple ys => some (.ok (tuple (xs ++ ys)))
  | .mul, text t, int n | .mul, int n, text t => some (repeated t n text)
  | .mul, bytes t, int n | .mul, int n, bytes t => some (repeated t n bytes)
  | .mul, list xs, int n | .mul, int n, list xs => some (repeated xs n list)
  | .mul, tuple xs, int n | .mul, int n, tuple xs => some (repeated xs n tuple)
  | .modulo, text t, tuple values => some ((format t values).map text)
  | .modulo, text t, v => some ((format t [v]).map text)
  | .union, dict xs, dict ys =>
    let kept := xs.map fun (k, x) => (k, (find? k ys).getD x)
    some (.ok (dict (kept ++ ys.filter fun (k, _) => (find? k xs).isNone)))
  | .within, v, w => (isWithin v w).map fun found => found.map bool
  | .notWithin, v, w => (isWithin v w).map fun found => found.map fun b => bool !b
  | _, _, _ => .none

/-- What an operator makes of two numbers. -/
def onNumbers (operator : Operator) (v w : Value) : Option (Except Text Value) :=
  match operator, v, w with
  | .divide, _, _ => floats
  | _, int i, int j => onInts operator i j
  | _, _, _ => floats
where
  /-- What the operator makes of two numbers as doubles. -/
  floats : Option (Except Text Value) :=
    match v.toFloat, w.toFloat with
    | .ok (some x), .ok (some y) => onFloats operator x y
    | .error words, .ok (some _) | .ok (some _), .error words | .error words, .error _ =>
      some (.error words)
    | _, _ => .none

/-- What a comparison makes of how two values compare. -/
def compared (operator : Operator) (v w : Value) : Option (Except Text Value) :=
  let ordered (holds : Ordering → Bool) : Option (Except Text Value) :=
    some (match v.order? w with
      | some o => .ok (bool (holds o))
      | .none => .error (unordered operator v w))
  match operator with
  | .equal => some (.ok (bool (v.equals w)))
  | .unequal => some (.ok (bool !(v.equals w)))
  | .less => ordered (· = .lt)
  | .greater => ordered (· = .gt)
  | .atMost => ordered (· ≠ .gt)
  | .atLeast => ordered (· ≠ .lt)
  | _ => .none

/-- What an operator makes of two values. -/
def combine (operator : Operator) (v w : Value) : Except Text Value :=
  match compared operator v w, onSequences operator v w, onNumbers operator v w with
  | some found, _, _ => found
  | .none, some found, _ => found
  | .none, .none, some found => found
  | .none, .none, .none =>
    .error s!"unknown binary op: {v.typeName} {operator.sign} {w.typeName}"

/-- A value with a sign before it. -/
def signed (sign : Sign) (v : Value) : Except Text Value :=
  match sign, v with
  | .not, v => .ok (bool !v.truth)
  | .minus, int i => .ok (int (-i))
  | .plus, int i => .ok (int i)
  | .complement, int i => .ok (int (-i - 1))
  | .minus, float bits => .ok (ofFloat (-floating bits))
  | .plus, float bits => .ok (float bits)
  | sign, v => .error s!"unknown unary op: {sign.text} {v.typeName}"

/-! ## Parts -/

/-- A bound of a part of `n` items: negative ones count from the end, and none lies
outside. -/
def boundOf (n : Nat) (least most : Int) (default : Int) : Option Int → Int
  | .none => default
  | some i => max least (min most (if i < 0 then i + n else i))

/-- The places from one bound to another. -/
def placesOf (n : Nat) (low high step : Option Int) : List Nat :=
  let step := step.getD 1
  let (low, high) :=
    if 0 < step then (boundOf n 0 n 0 low, boundOf n 0 n n high)
    else (boundOf n (-1) (n - 1) (n - 1) low, boundOf n (-1) (n - 1) (-1) high)
  (numbersIn low high step).map Int.toNat

/-- A bound as a number. -/
def bound (name : String) : Option Value → Except Text (Option Int)
  | .none | some none => .ok .none
  | some (int i) => .ok (some i)
  | some v => .error s!"invalid {name} index: got {v.typeName}, want int"

/-- A part of a sequence. -/
def part (v : Value) (low high step : Option Value) : Except Text Value := do
  match v with
  | text _ | bytes _ | list _ | tuple _ | range _ _ _ => pure ()
  | _ => throw (Text.ofString s!"invalid slice operand {v.typeName}")
  let step ← bound "slice step" step
  if step = some 0 then throw (Text.ofString "zero is not a valid slice step")
  let low ← bound "start" low
  let high ← bound "end" high
  let places := placesOf (v.length?.getD 0) low high step
  match v with
  | text t => return text (places.filterMap fun i => t[i]?)
  | bytes t => return bytes (places.filterMap fun i => t[i]?)
  | list items => return list (places.filterMap fun i => items[i]?)
  | tuple items => return tuple (places.filterMap fun i => items[i]?)
  | range a b c =>
    let n := stepsBetween a b c
    let step' := c * step.getD 1
    let (first, count) := (places.head?.getD n, places.length)
    let start := a + c * first
    return range start (start + step' * count) step'
  | _ => return v

end TapeDuel.Script.Value
