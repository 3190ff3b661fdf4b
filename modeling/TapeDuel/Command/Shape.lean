import TapeDuel.Command.Table

/-!
# Shapes of handlers

A handler is declared with the types it takes and gives. It becomes a command only if
it is a function that gives nothing, or an error and nothing else.
-/

namespace TapeDuel.Command

/-- What is declared as a handler. -/
inductive Shape where
  /-- Something else than a function, of the given type. -/
  | value (type : ArgType)
  | function (params : List ArgType) (tail : Option ArgType) (results : List ArgType)
deriving DecidableEq, Repr

/-- The type of errors. -/
def errorType : ArgType :=
  .other "error" "interface"

/-- The types that are not optional, by their names. A name that is not known stands
for a type that no word spells. -/
def ArgType.plain (name : String) : ArgType :=
  let known : List ArgType :=
    [bool, string, int none, int (some 8), int (some 16), int (some 32),
      int (some 64), uint none, uint (some 8), uint (some 16), uint (some 32),
      uint (some 64), float .single, float .double, other "[]int" "slice",
      other "map[string]int" "map", errorType]
  (known.find? fun type => type.name == name).getD (other name name)

/-- The type of a name; each star before it makes it optional once more. -/
def ArgType.starred : List Char → ArgType
  | '*' :: rest => optional (starred rest)
  | name => plain (String.ofList name)

/-- The types by their names. -/
def ArgType.named (name : String) : ArgType :=
  starred name.toList

/-- A function by the names of its types. Three points before the last parameter say
that it stands for any number of arguments. -/
def Shape.ofNames (params results : List String) : Shape :=
  let results := results.map ArgType.named
  match params.getLast? with
  | some last =>
    match last.toList with
    | '.' :: '.' :: '.' :: name =>
      .function (params.dropLast.map ArgType.named)
        (some (.named (String.ofList name))) results
    | _ => .function (params.map ArgType.named) none results
  | none => .function [] none results

/-- The type of a function in words. -/
def functionName (params : List ArgType) (tail : Option ArgType)
    (results : List ArgType) : String :=
  let taken :=
    params.map ArgType.name ++ (tail.map fun type => s!"...{type.name}").toList
  let given :=
    match results.map ArgType.name with
    | [] => ""
    | [one] => " " ++ one
    | several => " (" ++ String.intercalate ", " several ++ ")"
  "func(" ++ String.intercalate ", " taken ++ ")" ++ given

/-- Why a handler is refused, in words; none if it is fit. -/
def Shape.flaw? : Shape → Option String
  | value type => some s!"must be function, got {type.name}"
  | function params tail results =>
    match results with
    | [] => none
    | [result] =>
      if result = errorType then none
      else some s!"must return error, got {functionName params tail results}"
    | _ => some s!"must return 0 or 1 value, got {functionName params tail results}"

/-- The command of a handler with sub commands, or why the handler is refused. -/
def Shape.command {σ ε : Type} (shape : Shape) (run : List Arg → σ → Except ε Unit × σ)
    (subs : List (Row (Command σ ε))) (description : String) :
    Except String (Command σ ε) :=
  match shape.flaw?, shape with
  | none, .function params tail _ =>
      .ok (.mk (some ⟨params, tail, run⟩) subs description)
  | none, .value _ => .ok (.mk none subs description)
  | some flaw, _ => .error flaw

end TapeDuel.Command
