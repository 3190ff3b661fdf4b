import TapeDuel.Number.Shortest
import TapeDuel.Text.Quoted

/-!
# Values in log lines

What a log record carries is a tree of values. It is written in one of two ways:
plainly, for a reader, or as data, for a program. A summarised value has a short text
of its own for the plain way and shows its fields only as data.
-/

namespace TapeDuel.Log

/-- A value of a log record. -/
inductive Value where
  | null
  | bool (value : Bool)
  | int (value : Int)
  /-- A finite double, by its bits. -/
  | float (bits : Nat)
  | text (value : Text)
  /-- A name that is no plain text, such as that of a span; as data it is written as
  texts inside other values are. -/
  | label (name : Text)
  /-- A stretch of time in nanoseconds. -/
  | duration (nanoseconds : Nat)
  | list (items : List Value)
  /-- Named values without a text of their own, names ascending. -/
  | map (entries : List (Text × Value))
  | summarised (summary : Text) (fields : List (Text × Value))

/-- A name and its value. -/
abbrev Attr := Text × Value

/-! ## Durations -/

/-- The digits of a fraction of `places` places behind its point, without the zeros at
its end. -/
def fraction (places n : Nat) : Text :=
  let digits := Decimal.write n
  let padded := Number.zeros (places - digits.length) ++ digits
  match (padded.reverse.dropWhile (· = Text.byte '0')).reverse with
  | [] => []
  | shown => Text.byte '.' :: shown

/-- `n` units of `10 ^ places` each. -/
def inUnits (places n : Nat) (unit : String) : Text :=
  Decimal.write (n / Nat.pow 10 places) ++ fraction places (n % Nat.pow 10 places)
    ++ Text.ofString unit

/-- A duration in its largest fitting unit below the second, else in hours, minutes
and seconds. -/
def writeDuration (n : Nat) : Text :=
  if n = 0 then "0s"
  else if n < 1000 then inUnits 0 n "ns"
  else if n < 1000000 then inUnits 3 n "µs"
  else if n < 1000000000 then inUnits 6 n "ms"
  else
    let seconds := n / 1000000000
    let hours :=
      if 3600 ≤ seconds then Decimal.write (seconds / 3600) ++ [Text.byte 'h'] else []
    let minutes :=
      if 60 ≤ seconds then Decimal.write (seconds / 60 % 60) ++ [Text.byte 'm'] else []
    hours ++ minutes ++ inUnits 9 (n % 60000000000) "s"

/-! ## The plain way -/

mutual

/-- A value in plain text. -/
def Value.plain : Value → Text
  | .null => "<nil>"
  | .bool value => if value then "true" else "false"
  | .int value => Decimal.writeInt value
  | .float bits => Number.FloatStyle.general.write bits
  | .text value | .label value => value
  | .duration n => writeDuration n
  | .list items => Text.byte '[' :: Text.intercalate " " (plainItems items)
      ++ [Text.byte ']']
  | .map entries =>
    Text.ofString "map[" ++ Text.intercalate " " (plainEntries entries)
      ++ [Text.byte ']']
  | .summarised summary _ => summary

/-- Values in plain text. -/
def plainItems : List Value → List Text
  | [] => []
  | v :: rest => v.plain :: plainItems rest

/-- Named values in plain text. -/
def plainEntries : List (Text × Value) → List Text
  | [] => []
  | (name, v) :: rest => (name ++ Text.byte ':' :: v.plain) :: plainEntries rest

end

/-- Whether a rune must not stand bare in a plain line. -/
def forcesQuotes (rune : Text) : Bool :=
  match rune.codePoint? with
  | none => true
  | some code =>
    if code < 0x80 then code ≤ 0x20 || code = 0x22 || code = 0x3D
    else code = 0xFFFD || !isPrintable code

/-- Whether a text must be quoted in a plain line. -/
def needsQuotes (t : Text) : Bool :=
  t.isEmpty || t.runes.any forcesQuotes

/-- A text in a plain line, quoted if need be. -/
def bare (t : Text) : Text :=
  if needsQuotes t then t.quote else t

/-- A value in a plain line. Numbers and truth values never need quotes. -/
def Value.line (v : Value) : Text :=
  match v with
  | .bool _ | .int _ | .float _ | .duration _ => v.plain
  | v => bare v.plain

/-! ## The way of data -/

/-- A rune inside a data string. Values at the top of a record escape fewer controls
by a letter than those inside another value. -/
def escapeRune (nested : Bool) (rune : Text) : Text :=
  match rune.codePoint? with
  | none => "\\ufffd"
  | some 0x22 => "\\\""
  | some 0x5C => "\\\\"
  | some 0x0A => "\\n"
  | some 0x0D => "\\r"
  | some 0x09 => "\\t"
  | some 0x2028 => "\\u2028"
  | some 0x2029 => "\\u2029"
  | some code =>
    if nested && code = 8 then "\\b"
    else if nested && code = 12 then "\\f"
    else if code < 0x20 then Text.ofString "\\u" ++ Text.hexadecimal 4 code
    else rune

/-- A data string. -/
def dataString (nested : Bool) (t : Text) : Text :=
  Text.byte '"' :: (t.runes.map (escapeRune nested)).flatten ++ [Text.byte '"']

mutual

/-- A value as data, at the top of a record or inside another value. -/
def Value.data (nested : Bool) : Value → Text
  | .null => "null"
  | .bool value => if value then "true" else "false"
  | .int value => Decimal.writeInt value
  | .float bits => Number.FloatStyle.data.write bits
  | .text value => dataString nested value
  | .label name => dataString true name
  | .duration n => Decimal.write n
  | .list items => Text.byte '[' :: Text.intercalate "," (dataItems items)
      ++ [Text.byte ']']
  | .map entries =>
    Text.byte '\x7b' :: Text.intercalate "," (dataEntries entries) ++ [Text.byte '\x7d']
  | .summarised _ fields =>
    Text.byte '\x7b' :: Text.intercalate "," (dataEntries fields) ++ [Text.byte '\x7d']

/-- Values inside another value, as data. -/
def dataItems : List Value → List Text
  | [] => []
  | v :: rest => v.data true :: dataItems rest

/-- Named values inside another value, as data. -/
def dataEntries : List (Text × Value) → List Text
  | [] => []
  | (name, v) :: rest => (dataString true name ++ Text.byte ':' :: v.data true)
      :: dataEntries rest

end

end TapeDuel.Log
