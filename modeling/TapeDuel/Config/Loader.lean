import TapeDuel.Config.Evaluate
import TapeDuel.Host.FileTree
import TapeDuel.Word

/-!
# Loading settings

Settings come from several files, and an earlier file goes before a later one. All
files are read before the first setting is looked up: a schema that cannot be read, a
missing file, and a file that cannot be read or does not fit the schema each make
every look-up fail, in the order of the files.
-/

namespace TapeDuel.Config

/-! ## Paths into a file -/

/-- One step into a value. -/
inductive Selector where
  | field (label : Label)
  | index (place : Nat)
deriving DecidableEq, Repr

namespace Selector

/-- The step that a name asks for; what is hidden cannot be asked for. -/
def ofName? (name : Text) : Option Selector :=
  let label := Label.ofName name
  if label.sort = .hidden then none else some (.field label)

/-- The step that a number or a text asks for. -/
def ofToken? : Token → Option Selector
  | .scalar (.int i) => if fits64 i then some (.index i.toNat) else none
  | .string text _ => some (.field (.ofString text))
  | _ => none

/-- The steps behind the first one: names and texts behind dots, texts and numbers in
brackets. -/
def readMore : Tokens → Option (List Selector)
  | [] | [.lineEnd] => some []
  | .mark m :: token :: rest =>
    if m = Text.ofString "." then
      match token with
      | .name name =>
        match ofName? name, readMore rest with
        | some step, some steps => some (step :: steps)
        | _, _ => none
      | .string text true =>
        if text.isEmpty then none else (readMore rest).map (.field (.ofString text) :: ·)
      | _ => none
    else if m = Text.ofString "[" then
      match ofToken? token, rest with
      | some step, .mark c :: rest =>
        if c = Text.ofString "]" then (readMore rest).map (step :: ·) else none
      | _, _ => none
    else none
  | _ => none

/-- The first step of a path; the names of scalars are no names of fields here. -/
def first? : Token → Option Selector
  | .name name => if (namedScalar? name).isSome then none else ofName? name
  | token => ofToken? token

end Selector

/-- The selectors of a path; none if it is no path. The empty path leads nowhere
further. -/
def readPath (path : Text) : Option (List Selector) :=
  if path.isEmpty then some []
  else
    match Token.ofText path with
    | some (token :: rest) =>
      match Selector.first? token, Selector.readMore rest with
      | some step, some steps => some (step :: steps)
      | _, _ => none
    | _ => none

namespace Value

/-- What stands at the end of a path; what is pending does not stand there. -/
def at? : Value → List Selector → Option Value
  | pending, [] => none
  | v, [] => some v
  | struct fields _ _, .field label :: rest =>
    match field? label fields with
    | some (.present, some v) => v.at? rest
    | _ => none
  | list items _, .index i :: rest =>
    match items[i]? with
    | some v => v.at? rest
    | none => none
  | _, _ => none

/-! ## Decoding -/

/-- The scalar that a value is when nothing else is said. -/
def scalar? (v : Value) : Option Scalar :=
  match v.settled with
  | scalar s => some s
  | _ => none

/-- The number that a value is, if a machine word and its negative can hold it. -/
def toInt? (v : Value) : Option Int :=
  match v.scalar? with
  | some (.int i) => if fits64 i && fits64 (-i) then some i else none
  | _ => none

/-- The text that a value is. -/
def toText? (v : Value) : Option Text :=
  match v.scalar? with
  | some (.string s) => some s
  | _ => none

/-- The truth value that a value is. -/
def toBool? (v : Value) : Option Bool :=
  match v.scalar? with
  | some (.bool b) => some b
  | _ => none

/-- The list that a value is, if each of its items can be decoded. A value that is
null or not concrete decodes to no list at all. -/
def toList? {α : Type} (item : Value → Option α) (v : Value) :
    Option (Option (List α)) :=
  match v.settled with
  | list items _ => (items.mapM item).map some
  | scalar .null | any _ _ | choice _ => some none
  | _ => none

end Value

/-! ## Files -/

/-- The files that settings are looked up in, with what reading them gave. -/
structure Loader where
  files : List (String × Except FileFlaw Text)
  /-- What the files have to fit; empty if nothing is asked of them. -/
  schema : Text

namespace Loader

/-- The loader without files. -/
def none : Loader :=
  ⟨[], []⟩

/-- The paths of the files, in order. -/
def paths (loader : Loader) : List String :=
  loader.files.map Prod.fst

/-- The value of one file. -/
def readOne (schema : Option Value) (path : String)
    (content : Except FileFlaw Text) : Except Failure Value :=
  match content with
  | .error .missing => .error (.within s!"config {path}" (FileFlaw.missing.failure path))
  | .error _ => .error (.within s!"config {path}" .badConfig)
  | .ok text =>
    match valueOf? text with
    | .none => .error (.within s!"config {path}" .badConfig)
    | some value =>
      if schema.all fun wanted => (wanted.meet? value).isSome then .ok value
      else .error (.within s!"config {path}" .badConfig)

/-- The values of all files, or the first failure. -/
def values (loader : Loader) : Except Failure (List (String × Value)) := do
  let schema ←
    if loader.schema.isEmpty then pure .none
    else
      match schemaOf? loader.schema with
      | some wanted => pure (some wanted)
      | .none => throw (.within "config schema" .badConfig)
  loader.files.mapM fun (path, content) => do
    return (path, ← readOne schema path content)

/-- What each file says at a path, for the files that say something. A text that is no
path finds nothing. -/
def lookup (loader : Loader) (path : String) :
    Except Failure (List (String × Value)) := do
  let files ← loader.values
  match readPath path with
  | .none => return []
  | some selectors =>
    return files.filterMap fun (file, value) => (value.at? selectors).map fun v =>
      (file, v)

/-- Decodes what a file says at a path. -/
def decode {α : Type} (decoder : Value → Option α) (path file : String) (value : Value) :
    Except Failure α :=
  match decoder value with
  | some a => .ok a
  | .none => .error (.within s!"config {file}: {path}" .badConfig)

/-- What the first file says that says something. -/
def assignFirst {α : Type} (loader : Loader) (decoder : Value → Option α)
    (path : String) : Except Failure α := do
  match ← loader.lookup path with
  | [] => throw (.within path .valueNotFound)
  | (file, value) :: _ => decode decoder path file value

/-- What the first file says that says something, or `zero`. Everything that is wrong
ends the program. -/
def first {α : Type} (loader : Loader) (decoder : Value → Option α) (zero : α)
    (path : String) : Except Failure α :=
  match loader.lookup path with
  | .error failure => .error (.crash failure)
  | .ok [] => .ok zero
  | .ok ((file, value) :: _) => (decode decoder path file value).mapError .crash

/-- What the files say, at most `limit` of them. -/
def all {α : Type} (loader : Loader) (decoder : Value → Option α) (path : String)
    (limit : Option Nat) : Except Failure (List α) :=
  match loader.lookup path with
  | .error failure => .error (.crash failure)
  | .ok found =>
    let found := match limit with
      | some n => found.take n
      | .none => found
    (found.mapM fun (file, value) => decode decoder path file value).mapError .crash

end Loader

end TapeDuel.Config
