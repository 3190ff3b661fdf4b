import TapeDuel.Script.Operation
import TapeDuel.Script.Spelling

/-!
# What scripts can call

Every script knows some functions, and some values have methods. What is printed goes
to the output of the script; everything else only computes a value.
-/

namespace TapeDuel.Script

/-- A step of a script: it prints, and it ends with a value or with words about what
went wrong. -/
abbrev Action := ExceptT Text (StateM Text)

/-- Ends with words about what went wrong. -/
def Action.fail {α : Type} (words : Text) : Action α :=
  throw words

/-- The names that every script knows, apart from constants. -/
def builtinNames : List String :=
  ["abs", "all", "any", "bool", "bytes", "chr", "dict", "dir", "enumerate", "fail",
    "float", "getattr", "hasattr", "hash", "int", "len", "list", "max", "min", "ord",
    "print", "range", "repr", "reversed", "set", "sorted", "str", "tuple", "type", "zip"]

/-- Arguments that a function is called with, and those that have names. -/
structure Arguments where
  plain : List Value
  named : List (Text × Value)

namespace Value

/-! ## Methods -/

/-- The names of the methods of a value, in order; some values have none. -/
def methodNames : Value → List String
  | text _ => ["capitalize", "codepoint_ords", "codepoints", "count", "elem_ords",
      "elems", "endswith", "find", "format", "index", "isalnum", "isalpha", "isdigit",
      "islower", "isspace", "istitle", "isupper", "join", "lower", "lstrip",
      "partition", "removeprefix", "removesuffix", "replace", "rfind", "rindex",
      "rpartition", "rsplit", "rstrip", "split", "splitlines", "startswith", "strip",
      "title", "upper"]
  | bytes _ => ["elems"]
  | list _ => ["append", "clear", "extend", "index", "insert", "pop", "remove"]
  | dict _ => ["clear", "get", "items", "keys", "pop", "popitem", "setdefault",
      "update", "values"]
  | _ => []

/-- The method of a value. -/
def method? (v : Value) (name : Text) : Except Text Value :=
  match v.methodNames.find? fun m => Text.ofString m = name with
  | some m => .ok (method m v)
  | .none =>
    let hint :=
      match Spelling.nearest? name (v.methodNames.map Text.ofString) with
      | some other => Text.ofString " (did you mean ." ++ other ++ Text.ofString "?)"
      | .none => []
    .error (Text.ofString s!"{v.typeName} has no ." ++ name
      ++ Text.ofString " attribute" ++ hint)

/-- The small or the capital letter of a byte. -/
def changeCase (up : Bool) (b : UInt8) : UInt8 :=
  if up && 97 ≤ b && b ≤ 122 then b - 32
  else if !up && 65 ≤ b && b ≤ 90 then b + 32
  else b

/-- What a method makes of its arguments. -/
def callMethod (name : String) (v : Value) (args : List Value) : Except Text Value :=
  match name, v, args with
  | "keys", dict entries, [] => .ok (list (entries.map Prod.fst))
  | "values", dict entries, [] => .ok (list (entries.map Prod.snd))
  | "items", dict entries, [] => .ok (list (entries.map fun (k, w) => tuple [k, w]))
  | "get", dict entries, [key] => .ok ((find? key entries).getD none)
  | "get", dict entries, [key, other] => .ok ((find? key entries).getD other)
  | "upper", text t, [] => .ok (text (t.map (changeCase true)))
  | "lower", text t, [] => .ok (text (t.map (changeCase false)))
  | "startswith", text t, [text part] => .ok (bool (part.isPrefixOf t))
  | "endswith", text t, [text part] => .ok (bool (part.isSuffixOf t))
  | "join", text t, [v] =>
    match v.items?.bind fun items => items.mapM fun w =>
        match w with
        | text s => some s
        | _ => .none with
    | some parts => .ok (text (Text.intercalate t parts))
    | .none => .error s!"join: got {v.typeName}, want iterable of strings"
  | name, _, args => .error s!"{name}: got {args.length} arguments"

/-! ## Functions -/

/-- The items that a function is asked to run through. -/
def iterated (name : String) (v : Value) : Except Text (List Value) :=
  match v.items? with
  | some items => .ok items
  | .none => .error s!"{name}: for parameter 1: got {v.typeName}, want iterable"

/-- Puts a value into a sorted list, behind those that are not above it. -/
def insertSorted (v : Value) : List Value → Except Text (List Value)
  | [] => .ok [v]
  | w :: rest =>
    match v.order? w with
    | .none => .error (unordered .less v w)
    | some .lt => .ok (v :: w :: rest)
    | some _ => (insertSorted v rest).map (w :: ·)

/-- Values in order. -/
def sorted (vs : List Value) : Except Text (List Value) :=
  vs.foldlM (fun done v => insertSorted v done) []

/-- The largest or the smallest of some values; the first one if there are several. -/
def extreme (largest : Bool) (name : String) : List Value → Except Text Value
  | [] => .error s!"{name}: argument is an empty sequence"
  | v :: rest =>
    rest.foldlM (fun best w =>
      match w.order? best with
      | .none => .error (unordered (if largest then .greater else .less) w best)
      | some o => .ok (if o = (if largest then .gt else .lt) then w else best)) v

/-- The values of several sequences side by side, as long as the shortest lasts. -/
def zipped : Nat → List (List Value) → List Value
  | 0, _ => []
  | n + 1, columns =>
    if columns.isEmpty || columns.any List.isEmpty then []
    else tuple (columns.filterMap List.head?) :: zipped n (columns.map fun c => c.drop 1)

/-- A value as a whole number. -/
def toInteger : Value → Except Text Value
  | int i => .ok (int i)
  | bool b => .ok (int (if b then 1 else 0))
  | float bits =>
    match ratioOfFloat? bits with
    | some (m, d) => .ok (int (m.tdiv d))
    | .none =>
      if FloatFormat.double.infinity < bits % FloatFormat.double.signBit then
        .error "int: cannot convert float NaN to integer"
      else .error "int: cannot convert float infinity to integer"
  | text t =>
    let (negative, digits) := Number.takeSign t
    if !digits.isEmpty && digits.all Decimal.isDigit then
      .ok (int (if negative then -(Decimal.read digits : Int) else Decimal.read digits))
    else .error (Text.ofString "int: invalid literal with base 10: " ++ t)
  | v => .error s!"int: got {v.typeName}, want int or float or string"

/-- What a function that only computes makes of its arguments. -/
def compute (name : String) (args : List Value) : Except Text Value :=
  match name, args with
  | "abs", [int i] => .ok (int i.natAbs)
  | "abs", [float bits] => .ok (float (bits % FloatFormat.double.signBit))
  | "all", [v] => (iterated name v).map fun items => bool (items.all truth)
  | "any", [v] => (iterated name v).map fun items => bool (items.any truth)
  | "bool", [] => .ok (bool false)
  | "bool", [v] => .ok (bool v.truth)
  | "chr", [int i] =>
    if i < 0 then .error s!"chr: Unicode code point {i} out of range (<0)"
    else if 0x10FFFF < i then .error (Text.ofString "chr: Unicode code point U+"
      ++ codeName i.toNat
      ++ Text.ofString " out of range (>0x10FFFF)")
    else .ok (text (Text.ofCodePoint i.toNat))
  | "dict", [] => .ok (dict [])
  | "dict", [dict entries] => .ok (dict entries)
  | "dir", [v] => .ok (list (v.methodNames.map fun (m : String) => text m))
  | "enumerate", [v] =>
    (iterated name v).map fun items =>
      list (items.zipIdx.map fun (w, i) => tuple [int i, w])
  | "fail", args =>
    .error (Text.ofString "fail: " ++ Text.intercalate " " (args.map printed))
  | "float", [] => .ok (float 0)
  | "float", [bool b] => .ok (ofFloat (if b then 1 else 0))
  | "float", [v] =>
    match v.toFloat with
    | .ok (some x) => .ok (ofFloat x)
    | .ok .none => .error s!"float: got {v.typeName}, want number or string"
    | .error words => .error words
  | "hasattr", [v, text name] =>
      .ok (bool (v.methodNames.any fun m => Text.ofString m = name))
  | "int", [] => .ok (int 0)
  | "int", [v] => v.toInteger
  | "len", [v] =>
    match v.length? with
    | some n => .ok (int n)
    | .none => .error s!"len: value of type {v.typeName} has no len"
  | "len", args => .error s!"len: got {args.length} arguments, want 1"
  | "list", [] => .ok (list [])
  | "list", [v] => (iterated name v).map list
  | "max", [v] => (iterated name v).bind (extreme true name)
  | "min", [v] => (iterated name v).bind (extreme false name)
  | "max", v :: w :: rest => extreme true name (v :: w :: rest)
  | "min", v :: w :: rest => extreme false name (v :: w :: rest)
  | "ord", [text t] =>
    match t.runes with
    | [rune] => .ok (int (rune.codePoint?.getD 0xFFFD))
    | runes => .error s!"ord: string encodes {runes.length} Unicode code points, want 1"
  | "range", [int high] => .ok (range 0 high 1)
  | "range", [int low, int high] => .ok (range low high 1)
  | "range", [int low, int high, int step] =>
    if step = 0 then .error "range: step argument must not be zero"
    else .ok (range low high step)
  | "repr", [v] => .ok (text v.shown)
  | "reversed", [v] => (iterated name v).map fun items => list items.reverse
  | "sorted", [v] => do return list (← sorted (← iterated name v))
  | "str", [v] =>
    match v with
    | text t | bytes t => .ok (text t)
    | v => .ok (text v.shown)
  | "tuple", [] => .ok (tuple [])
  | "tuple", [v] => (iterated name v).map tuple
  | "type", [v] => .ok (text v.typeName)
  | "type", args | "str", args =>
      .error s!"{name}: got {args.length} arguments, want exactly 1"
  | "zip", columns =>
    (columns.mapM (iterated name)).map fun columns =>
      list (zipped ((columns.map List.length).foldl max 0) columns)
  | name, args => .error s!"{name}: got {args.length} arguments"

/-- Prints values with what stands between them. -/
def print (args : Arguments) : Action Value :=
  let finish (between : Text) : Action Value := do
    modify fun out =>
      out ++ Text.intercalate between (args.plain.map printed) ++ [Text.byte '\n']
    return none
  match args.named with
  | [] => finish " "
  | (name, v) :: _ =>
    if name = Text.ofString "sep" then
      match v with
      | text between => finish between
      | v => Action.fail s!"print: for parameter sep: got {v.typeName}, want string"
    else
      let hint :=
        match Spelling.nearest? name [Text.ofString "sep"] with
        | some other => Text.ofString " (did you mean " ++ other ++ Text.ofString "?)"
        | .none => []
      Action.fail (Text.ofString "print: unexpected keyword argument "
        ++ name.quote ++ hint)

/-- Calls a value. -/
def call (f : Value) (args : Arguments) : Action Value :=
  match f with
  | builtin "print" => print args
  | builtin name =>
    if args.named.isEmpty then liftM (compute name args.plain)
    else Action.fail s!"{name}: unexpected keyword arguments"
  | method name of => liftM (callMethod name of args.plain)
  | function arity apply =>
    match (args.plain.take arity).mapM toWord? with
    | some words =>
      if words.length = arity then return int (apply words)
      else Action.fail "not enough arguments"
    | .none => Action.fail "bad arguments"
  | f => Action.fail s!"invalid call of non-function ({f.typeName})"

end Value

end TapeDuel.Script
