import TapeDuel.Log.Record
import TapeDuel.Script.Builtin
import TapeDuel.Script.Reader
import TapeDuel.Script.Scope

/-!
# Running scripts

A script is run over values with names. It is read as a whole and every name has to
mean something; then its statements are done in order, up to the first that fails.
What was printed until then stays printed.
-/

namespace TapeDuel.Script

/-- The values that a script can name. -/
abbrev Globals := List (String × Value)

/-- The names that every script knows. -/
def knownNames : Globals :=
  [("None", .none), ("True", .bool true), ("False", .bool false)]
    ++ builtinNames.map fun name => (name, .builtin name)

/-- Values by their names, the latest first. -/
abbrev Bindings := List (Text × Value)

/-- The value of a name. -/
def valueOf (bindings : Bindings) (name : Text) : Action Value :=
  match bindings.find? fun b => b.1 = name with
  | some (_, v) => return v
  | none =>
    Action.fail (Text.ofString "global variable " ++ name
      ++ Text.ofString " referenced before assignment")

/-! ## Assignment -/

mutual

/-- Names with values, after a value was assigned to an expression. -/
def assign (bindings : Bindings) (v : Value) : Expr → Action Bindings
  | .name label _ => return (label, v) :: bindings
  | .paren of _ => assign bindings v of
  | .list targets _ | .tuple targets _ =>
    match v.items? with
    | none => Action.fail s!"got {v.typeName} in sequence assignment"
    | some items =>
      if items.length < targets.length then
        Action.fail
          s!"too few values to unpack (got {items.length}, want {targets.length})"
      else if targets.length < items.length then
        Action.fail
          s!"too many values to unpack (got {items.length}, want {targets.length})"
      else assignAll bindings items targets
  | e => Action.fail s!"can't assign to {e.sort}"

/-- Names with values, after values were assigned to expressions. -/
def assignAll (bindings : Bindings) (items : List Value) : List Expr → Action Bindings
  | [] => return bindings
  | e :: rest =>
    match items with
    | [] => return bindings
    | v :: items => do
      let bindings ← assign bindings v e
      assignAll bindings items rest

end

/-- What a loop runs through. -/
def iterate (v : Value) : Action (List Value) :=
  match v.items? with
  | some items => return items
  | none => Action.fail s!"{v.typeName} value is not iterable"

/-- A table with one more entry; an entry of the same key is replaced. -/
def putEntry (entries : List (Value × Value)) (key v : Value) :
    Action (List (Value × Value)) :=
  if !key.isKey then Action.fail key.keyWords
  else if (Value.find? key entries).isSome then
    return entries.map fun (k, w) => if k.sameKey key then (k, v) else (k, w)
  else return entries ++ [(key, v)]

/-! ## Expressions -/

mutual

/-- The value of an expression. -/
def eval (bindings : Bindings) : Expr → Action Value
  | .name label _ => valueOf bindings label
  | .constant v _ => return v
  | .list items _ => return .list (← evalAll bindings items)
  | .tuple items _ => return .tuple (← evalAll bindings items)
  | .dict entries _ => return .dict (← evalEntries bindings [] entries)
  | .paren of _ => eval bindings of
  | .unary sign of _ => do
    let v ← eval bindings of
    liftM (v.signed sign)
  | .binary operator left right => do
    let v ← eval bindings left
    let w ← eval bindings right
    liftM (Value.combine operator v w)
  | .and left right => do
    let v ← eval bindings left
    if v.truth then eval bindings right else return v
  | .or left right => do
    let v ← eval bindings left
    if v.truth then return v else eval bindings right
  | .cond test yes no => do
    let v ← eval bindings test
    if v.truth then eval bindings yes else eval bindings no
  | .dot of label => do
    let v ← eval bindings of
    liftM (v.method? label)
  | .index of key => do
    let v ← eval bindings of
    let k ← eval bindings key
    liftM (v.at? k)
  | .slice of low high step => do
    let v ← eval bindings of
    let low ← evalPart bindings low
    let high ← evalPart bindings high
    let step ← evalPart bindings step
    liftM (v.part low high step)
  | .call function args => do
    let f ← eval bindings function
    let args ← evalArguments bindings args
    f.call args
  | .listOf item clauses _ => do
    let values ← evalClauses (fun b => return [← eval b item]) clauses bindings
    return .list values
  | .dictOf key value clauses _ => do
    let pairs ← evalClauses (fun b => return [.tuple [← eval b key, ← eval b value]])
        clauses bindings
    let entries ← pairs.foldlM (fun entries pair =>
      match pair with
      | .tuple [k, v] => putEntry entries k v
      | _ => return entries) []
    return .dict entries

/-- The values of expressions, from left to right. -/
def evalAll (bindings : Bindings) : List Expr → Action (List Value)
  | [] => return []
  | e :: rest => do
    let v ← eval bindings e
    return v :: (← evalAll bindings rest)

/-- The value of an expression that may be left out. -/
def evalPart (bindings : Bindings) : Option Expr → Action (Option Value)
  | none => return none
  | some e => return some (← eval bindings e)

/-- A table with further entries, each of a key of its own. -/
def evalEntries (bindings : Bindings) (done : List (Value × Value)) :
    List (Expr × Expr) → Action (List (Value × Value))
  | [] => return done
  | (key, value) :: rest => do
    let k ← eval bindings key
    let v ← eval bindings value
    if k.isKey && (Value.find? k done).isSome then
      Action.fail (Text.ofString "duplicate key: " ++ k.shown)
    else
      let done ← putEntry done k v
      evalEntries bindings done rest

/-- The values of arguments. -/
def evalArguments (bindings : Bindings) : List Argument → Action Arguments
  | [] => return ⟨[], []⟩
  | .plain e :: rest => do
    let v ← eval bindings e
    let more ← evalArguments bindings rest
    return { more with plain := v :: more.plain }
  | .named label _ e :: rest => do
    let v ← eval bindings e
    let more ← evalArguments bindings rest
    return { more with named := (label, v) :: more.named }

/-- The values that are computed for all that clauses run through. -/
def evalClauses (item : Bindings → Action (List Value)) :
    List Clause → Bindings → Action (List Value)
  | [], bindings => item bindings
  | .each target items :: rest, bindings => do
    let values ← iterate (← eval bindings items)
    let parts ← values.mapM fun v => do
      let inner ← assign bindings v target
      evalClauses item rest inner
    return parts.flatten
  | .only test :: rest, bindings => do
    let v ← eval bindings test
    if v.truth then evalClauses item rest bindings else return []

end

/-! ## Statements -/

/-- How a statement ends. -/
inductive Outcome where
  | goesOn
  /-- The loop around it is left. -/
  | leaves
  /-- This round of the loop around it is left. -/
  | skips
deriving DecidableEq

/-- A loop over values. -/
def eachOf (step : Bindings → Value → Action (Bindings × Outcome)) :
    List Value → Bindings → Action Bindings
  | [], bindings => return bindings
  | v :: rest, bindings => do
    let (bindings, outcome) ← step bindings v
    if outcome = .leaves then return bindings else eachOf step rest bindings

/-- A loop that goes on as long as its test holds, for at most `rounds` rounds. -/
def whileTrue (test : Bindings → Action Bool)
    (step : Bindings → Action (Bindings × Outcome)) :
    Nat → Bindings → Action Bindings
  | 0, _ => Action.fail "too many steps"
  | rounds + 1, bindings => do
    if ← test bindings then
      let (bindings, outcome) ← step bindings
      if outcome = .leaves then return bindings else whileTrue test step rounds bindings
    else return bindings

/-- The largest number of rounds of a loop. -/
def maxRounds : Nat := 1000000

mutual

/-- Does a statement. -/
def exec (bindings : Bindings) : Statement → Action (Bindings × Outcome)
  | .expr e => do
    let _ ← eval bindings e
    return (bindings, .goesOn)
  | .assign target e => do
    let v ← eval bindings e
    return (← assign bindings v target, .goesOn)
  | .augment operator target e => do
    let v ← eval bindings target
    let w ← eval bindings e
    let z ← liftM (Value.combine operator v w)
    return (← assign bindings z target, .goesOn)
  | .choose test yes no => do
    let v ← eval bindings test
    if v.truth then execAll bindings yes else execAll bindings no
  | .each target items body => do
    let values ← iterate (← eval bindings items)
    let bindings ← eachOf (fun b v => do
      let b ← assign b v target
      execAll b body) values bindings
    return (bindings, .goesOn)
  | .repeated test body => do
    let bindings ← whileTrue (fun b => return (← eval b test).truth)
        (fun b => execAll b body)
      maxRounds bindings
    return (bindings, .goesOn)
  | .pass | .giveBack _ => return (bindings, .goesOn)
  | .leave goesOn _ => return (bindings, if goesOn then .skips else .leaves)

/-- Does statements in order. -/
def execAll (bindings : Bindings) : List Statement → Action (Bindings × Outcome)
  | [] => return (bindings, .goesOn)
  | s :: rest => do
    let (bindings, outcome) ← exec bindings s
    if outcome = .goesOn then execAll bindings rest else return (bindings, outcome)

end

/-- The failure of a flaw in a script. -/
def Flaw.failure (flaw : Flaw) (file : String) : Failure :=
  .badScript (Text.ofString s!"{file}:{flaw.place.line}:{flaw.place.column}: "
    ++ flaw.words)

/-- The bindings that a script starts with. -/
def startOf (globals : Globals) : Bindings :=
  (globals ++ knownNames).map fun (name, v) => (Text.ofString name, v)

/-- Runs a script: what it prints, and why it failed if it did. -/
def run (file : String) (source : Text) (globals : Globals) :
    Text × Except Failure Unit :=
  let start := startOf globals
  match statementsOf source with
  | .error flaw => ([], .error (flaw.failure file))
  | .ok script =>
    match scriptFlaw? (start.map Prod.fst) script with
    | some flaw => ([], .error (flaw.failure file))
    | none =>
      match (execAll start script).run.run [] with
      | (.ok _, out) => (out, .ok ())
      | (.error words, out) => (out, .error (.badScript words))

/-- The record of running a script. -/
def evalRecord (file : String) : Log.Record :=
  { level := .debug, message := "eval", attrs := [("name", .text file)] }

end TapeDuel.Script
