import TapeDuel.Failure
import TapeDuel.Number.Shortest
import TapeDuel.Text.Quoted
import TapeDuel.Word

/-!
# Values of scripts

A script looks at results as values of a small language: numbers, texts, lists and
tables with keys. A value is written in one way only; a text that is printed by itself
stands bare, inside another value it is quoted.
-/

namespace TapeDuel.Script

/-- A value of a script. -/
inductive Value where
  | none
  | bool (value : Bool)
  | int (value : Int)
  /-- A double, by its bits. -/
  | float (bits : Nat)
  | text (value : Text)
  | bytes (value : Text)
  | list (items : List Value)
  | tuple (items : List Value)
  /-- The numbers from `low` on in steps, up to `high` but without it. -/
  | range (low high step : Int)
  /-- Keys with their values, in the order in which they were put in. -/
  | dict (entries : List (Value × Value))
  /-- A function of some whole numbers that is given to the script. -/
  | function (arity : Nat) (apply : List Int → Int)
  /-- What every script can call. -/
  | builtin (name : String)
  /-- What can be called on a value. -/
  | method (name : String) (of : Value)

namespace Value

/-- The name of the type of a value. -/
def typeName : Value → String
  | none => "NoneType"
  | bool _ => "bool"
  | int _ => "int"
  | float _ => "float"
  | text _ => "string"
  | bytes _ => "bytes"
  | list _ => "list"
  | tuple _ => "tuple"
  | range _ _ _ => "range"
  | dict _ => "dict"
  | function _ _ | builtin _ | method _ _ => "builtin_function_or_method"

/-! ## Writing -/

/-- A double in words. One without fraction and exponent gets a zero behind a point. -/
def writeFloat (bits : Nat) : Text :=
  let magnitude := bits % FloatFormat.double.signBit
  if magnitude = FloatFormat.double.infinity then
    if magnitude < bits then "-inf" else "+inf"
  else if FloatFormat.double.infinity < magnitude then "nan"
  else
    let plain := Number.FloatStyle.general.write bits
    if plain.any fun b => b = Text.byte '.' || b = Text.byte 'e' then plain
    else plain ++ Text.ofString ".0"

mutual

/-- A value as it stands inside another one. -/
def shown : Value → Text
  | none => "None"
  | bool value => if value then "True" else "False"
  | int value => Decimal.writeInt value
  | float bits => writeFloat bits
  | text value => value.quote
  | bytes value => Text.byte 'b' :: value.quote
  | list items => Text.byte '[' :: Text.intercalate ", " (shownItems items)
      ++ [Text.byte ']']
  | tuple items =>
    let comma := if items.length = 1 then [Text.byte ','] else []
    Text.byte '(' :: Text.intercalate ", " (shownItems items) ++ comma ++ [Text.byte ')']
  | range low high step =>
    if step = 1 then s!"range({low}, {high})" else s!"range({low}, {high}, {step})"
  | dict entries =>
    Text.byte '\x7b' :: Text.intercalate ", " (shownEntries entries)
      ++ [Text.byte '\x7d']
  | function _ _ => "<built-in function >"
  | builtin name => s!"<built-in function {name}>"
  | method name of => s!"<built-in method {name} of {of.typeName} value>"

/-- Values inside another one. -/
def shownItems : List Value → List Text
  | [] => []
  | v :: rest => v.shown :: shownItems rest

/-- Keys and values inside another one. -/
def shownEntries : List (Value × Value) → List Text
  | [] => []
  | (key, v) :: rest => (key.shown ++ Text.ofString ": " ++ v.shown) :: shownEntries rest

end

/-- A value as it is printed by itself. -/
def printed : Value → Text
  | text value | bytes value => value
  | v => v.shown

/-! ## Numbers -/

/-- The sign and the magnitude of a double that is a number, as a ratio. -/
def ratioOfFloat? (bits : Nat) : Option (Int × Nat) :=
  let magnitude := bits % FloatFormat.double.signBit
  if FloatFormat.double.infinity ≤ magnitude then .none
  else
    let (mantissa, place) := FloatFormat.double.decode magnitude
    let (num, den) :=
      if 0 ≤ place then (mantissa * Nat.pow 2 place.toNat, 1)
      else (mantissa, Nat.pow 2 (-place).toNat)
    some (if magnitude < bits then -(num : Int) else num, den)

/-- How far a number that is no ratio lies from all others: below them, above them,
and above even those. -/
def beyond (bits : Nat) : Int :=
  if FloatFormat.double.infinity < bits % FloatFormat.double.signBit then 2
  else if FloatFormat.double.signBit ≤ bits then -1
  else 1

/-- How two numbers compare, each given by its ratio and by how far it lies beyond all
ratios. -/
def compareRatios (a b : Option (Int × Nat) × Int) : Ordering :=
  match a.1, b.1 with
  | some (m, d), some (n, e) => compare (m * e) (n * d)
  | _, _ => compare a.2 b.2

/-- A number as a ratio, and how far it lies beyond all ratios. -/
def number? : Value → Option (Option (Int × Nat) × Int)
  | int i => some (some (i, 1), 0)
  | float bits =>
    match ratioOfFloat? bits with
    | some ratio => some (some ratio, 0)
    | .none => some (.none, beyond bits)
  | _ => .none

/-! ## Keys -/

mutual

/-- Whether two values are the same key. -/
def sameKey : Value → Value → Bool
  | none, none => true
  | bool a, bool b => a = b
  | text a, text b => a = b
  | bytes a, bytes b => a = b
  | tuple xs, tuple ys => sameKeys xs ys
  | builtin a, builtin b => a = b
  | a, b =>
    match a.number?, b.number? with
    | some m, some n => compareRatios m n = .eq
    | _, _ => false

/-- Whether values are the same keys, one after the other. -/
def sameKeys : List Value → List Value → Bool
  | [], [] => true
  | x :: xs, y :: ys => x.sameKey y && sameKeys xs ys
  | _, _ => false

end

mutual

/-- The part of a value that keeps it from being a key. -/
def keyFlaw? : Value → Option Value
  | list items => some (list items)
  | dict entries => some (dict entries)
  | range low high step => some (range low high step)
  | tuple items => keyFlawIn? items
  | _ => .none

/-- The first part of some values that keeps them from being keys. -/
def keyFlawIn? : List Value → Option Value
  | [] => .none
  | v :: rest =>
    match v.keyFlaw? with
    | some part => some part
    | .none => keyFlawIn? rest

end

/-- Whether a value can be a key. -/
def isKey (v : Value) : Bool :=
  v.keyFlaw?.isNone

/-- Why a value cannot be a key. -/
def keyWords (v : Value) : String :=
  s!"unhashable type: {(v.keyFlaw?.getD v).typeName}"

/-- The failure of handing something to a script that no value stands for. -/
def unsupported (type : String) : Failure :=
  .crash (.plain s!"unsupported type for starlark: {type}")

/-- A table with one key, which has to be fit for it. -/
def single (key value : Value) : Except Failure Value :=
  if key.isKey then .ok (dict [(key, value)])
  else .error (.crash (.plain key.keyWords))

/-- A table with names for keys. -/
def record (fields : List (String × Value)) : Value :=
  dict (fields.map fun (name, v) => (text name, v))

/-- The value of a key. -/
def find? (key : Value) : List (Value × Value) → Option Value
  | [] => .none
  | (k, v) :: rest => if k.sameKey key then some v else find? key rest

/-! ## Operations -/

/-- The place that an index means among `n` items; negative ones count from the end. -/
def placeOf (n : Nat) (i : Int) : Option Nat :=
  let i := if i < 0 then i + n else i
  if 0 ≤ i && i < n then some i.toNat else .none

/-- The words of an index that means no place. -/
def outOfRange (v : Value) (n : Nat) (i : Int) : Text :=
  if n = 0 then s!"index {i} out of range: empty {v.typeName}"
  else s!"{v.typeName} index {i} out of range [{-(n : Int)}:{(n : Int) - 1}]"

/-- The item at an index of a sequence of `n` items. -/
def item (v : Value) (n : Nat) (get : Nat → Option Value) : Value → Except Text Value
  | int i =>
    if i < -0x80000000 || 0x80000000 ≤ i then
      .error s!"{v.typeName} index: {i} out of range"
    else
      match (placeOf n i).bind get with
      | some item => .ok item
      | .none => .error (v.outOfRange n i)
  | key => .error s!"{v.typeName} index: got {key.typeName}, want int"

/-- The number of steps from one number up or down to another. -/
def stepsBetween (low high step : Int) : Nat :=
  if 0 < step then ((high - low + step - 1) / step).toNat
  else if step < 0 then ((low - high - step - 1) / -step).toNat
  else 0

/-- The numbers of a range. -/
def numbersOf (low high step : Int) : List Value :=
  (List.range (stepsBetween low high step)).map fun (i : Nat) => int (low + step * i)

/-- What stands at a key or an index; the error is in words. -/
def at? (v key : Value) : Except Text Value :=
  match v with
  | dict entries =>
    match key.keyFlaw?, find? key entries with
    | some _, _ => .error key.keyWords
    | .none, some found => .ok found
    | .none, .none =>
        .error (Text.ofString "key " ++ key.shown ++ Text.ofString " not in dict")
  | list items | tuple items => v.item items.length (fun i => items[i]?) key
  | text t => v.item t.length (fun i => t[i]?.map fun b => text [b]) key
  | bytes t => v.item t.length (fun i => t[i]?.map fun b => bytes [b]) key
  | range low high step =>
    v.item (stepsBetween low high step) (fun i => some (int (low + step * i))) key
  | _ => .error s!"unhandled index operation {v.typeName}[{key.typeName}]"

/-- The length of a value; texts count their bytes. -/
def length? : Value → Option Nat
  | text t | bytes t => some t.length
  | list items | tuple items => some items.length
  | dict entries => some entries.length
  | range low high step => some (stepsBetween low high step)
  | _ => .none

/-- The whole number that a value is, if it fits a machine word. -/
def toWord? : Value → Option Int
  | int i => if fits64 i then some i else .none
  | _ => .none

end Value

end TapeDuel.Script
