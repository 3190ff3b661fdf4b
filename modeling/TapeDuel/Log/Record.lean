import TapeDuel.Log.Value
import TapeDuel.Word

/-!
# Log records

A record has a level, a message and attributes, and belongs to a span or to none.
Levels are numbers with four names among them; a level between two names is written as
a distance from the lower one.
-/

namespace TapeDuel.Log

/-- How much a record matters. -/
abbrev Level := Int

namespace Level

/-- Details of the work. -/
def debug : Level := -4

/-- What is being done. -/
def info : Level := 0

/-- What might go wrong. -/
def warn : Level := 4

/-- What went wrong. -/
def error : Level := 8

/-- A name with a distance from it. -/
def offset (name : String) (distance : Int) : String :=
  if distance = 0 then name
  else if 0 < distance then s!"{name}+{distance}"
  else s!"{name}{distance}"

/-- A level in words. -/
def describe (level : Level) : String :=
  if level < info then offset "DEBUG" (level - debug)
  else if level < warn then offset "INFO" (level - info)
  else if level < error then offset "WARN" (level - warn)
  else offset "ERROR" (level - error)

/-- A letter as a capital one. Of the letters that are not ASCII only the dotless i
matters: its capital stands in a name. -/
def capital (c : Char) : Char :=
  if c = 'ı' then 'I' else c.toUpper

/-- The level of a name, in letters of any size. -/
def named? (name : String) : Option Level :=
  match name.map capital with
  | "DEBUG" => some debug
  | "INFO" => some info
  | "WARN" => some warn
  | "ERROR" => some error
  | _ => none

/-- The level that a word describes. Levels are counted in a machine word. -/
def read? (word : String) : Option Level :=
  let (name, distance) := word.toList.span fun c => c ≠ '+' && c ≠ '-'
  match named? (String.ofList name), distance with
  | some level, [] => some level
  | some level, _ =>
    match Number.readSigned 64 (String.ofList distance) with
    | .ok n => some (wrap64 (level + n))
    | .error _ => none
  | none, _ => none

end Level

/-- The name of a span. -/
abbrev Span := String

/-- One thing that was logged. -/
structure Record where
  level : Level
  message : Text
  attrs : List Attr
  span : Option Span := none

/-- The name of a value that stands where a name should. -/
def badKey : Text :=
  "!BADKEY"

/-- Names and values in turn, as attributes. A value that stands where a name should,
or a name without a value, becomes an attribute of its own under a mark. -/
def attrsOf : List Value → List Attr
  | [] => []
  | [v] => [(badKey, v)]
  | .text name :: v :: rest => (name, v) :: attrsOf rest
  | v :: rest => (badKey, v) :: attrsOf rest

/-- The attributes that count: one without name and value does not. -/
def counting (attrs : List Attr) : List Attr :=
  attrs.filter fun (name, v) =>
    match name, v with
    | [], .null => false
    | _, _ => true

/-- The attributes of a record, its span last. -/
def Record.shown (r : Record) : List Attr :=
  counting
    (r.attrs ++ (r.span.map fun s => (Text.ofString "logs.span", Value.label s)).toList)

end TapeDuel.Log
