import TapeDuel.Script.Spelling
import TapeDuel.Script.Syntax

/-!
# Names in scripts

Before anything is done, every name has to mean something: a value that was given to
the script, something that every script knows, or a name to which a statement before
it assigns. What is only looked up while a list is made may also be assigned later.
Besides, only some expressions can be assigned to, and loops can only be left from
inside.
-/

namespace TapeDuel.Script

/-- What is known about names at a place of a script. -/
structure Scope where
  /-- Names that mean something from the start. -/
  given : List Text
  /-- Names that are assigned to anywhere. -/
  anywhere : List Text
  /-- Names that were assigned to already. -/
  assigned : List Text
  /-- Names that only stand for what a clause runs through. -/
  inner : List Text
  /-- Whether this is inside of a clause. -/
  inClause : Bool

namespace Scope

/-- Whether a name means something. -/
def knows (scope : Scope) (name : Text) : Bool :=
  scope.inner.contains name || scope.assigned.contains name || scope.given.contains name
    || (scope.inClause && scope.anywhere.contains name)

/-- The flaw of a name that means nothing. -/
def unknown (scope : Scope) (name : Text) (place : Place) : Flaw :=
  let names := scope.inner ++ if scope.inClause then scope.anywhere else scope.assigned
  let sorted := names.mergeSort fun a b => a ≤ b
  let hint :=
    match Spelling.nearest? name sorted with
    | some other => Text.ofString " (did you mean " ++ other ++ Text.ofString "?)"
    | none => []
  ⟨place, Text.ofString "undefined: " ++ name ++ hint⟩

end Scope

/-- The first flaw of several. -/
def firstFlaw (flaws : List (Option Flaw)) : Option Flaw :=
  flaws.findSome? id

mutual

/-- The names that an expression is assigned to. -/
def Expr.targets : Expr → List Text
  | .name label _ => [label]
  | .list items _ | .tuple items _ => targetsIn items
  | .paren of _ => of.targets
  | _ => []

/-- The names that expressions are assigned to. -/
def targetsIn : List Expr → List Text
  | [] => []
  | e :: rest => e.targets ++ targetsIn rest

end

mutual

/-- The first name in an expression that means nothing. -/
def Expr.flaw? (scope : Scope) : Expr → Option Flaw
  | .name label place =>
      if scope.knows label then none else some (scope.unknown label place)
  | .constant _ _ => none
  | .list items _ | .tuple items _ => flawIn? scope items
  | .dict entries _ => entriesFlaw? scope entries
  | .paren of _ | .unary _ of _ | .dot of _ => of.flaw? scope
  | .binary _ left right | .and left right | .or left right | .index left right =>
    firstFlaw [left.flaw? scope, right.flaw? scope]
  | .cond test yes no => firstFlaw [test.flaw? scope, yes.flaw? scope, no.flaw? scope]
  | .slice of low high step =>
    firstFlaw [of.flaw? scope, partFlaw? scope low, partFlaw? scope high,
      partFlaw? scope step]
  | .call function args => firstFlaw [function.flaw? scope, argsFlaw? scope [] args]
  | .listOf item clauses _ =>
    let (found, scope) := clausesFlaw? scope clauses
    firstFlaw [found, item.flaw? scope]
  | .dictOf key value clauses _ =>
    let (found, scope) := clausesFlaw? scope clauses
    firstFlaw [found, key.flaw? scope, value.flaw? scope]

/-- The first flaw in several expressions. -/
def flawIn? (scope : Scope) : List Expr → Option Flaw
  | [] => none
  | e :: rest => firstFlaw [e.flaw? scope, flawIn? scope rest]

/-- The first flaw in an expression that may be left out. -/
def partFlaw? (scope : Scope) : Option Expr → Option Flaw
  | none => none
  | some e => e.flaw? scope

/-- The first flaw in keys and values. -/
def entriesFlaw? (scope : Scope) : List (Expr × Expr) → Option Flaw
  | [] => none
  | (key, value) :: rest =>
    firstFlaw [key.flaw? scope, value.flaw? scope, entriesFlaw? scope rest]

/-- The first flaw in arguments. Arguments with names come last, and each name once. -/
def argsFlaw? (scope : Scope) (names : List Text) : List Argument → Option Flaw
  | [] => none
  | .plain e :: rest =>
    let misplaced :=
      if names.isEmpty then none
      else some ⟨e.start, "positional argument may not follow named"⟩
    firstFlaw [misplaced, e.flaw? scope, argsFlaw? scope names rest]
  | .named label place e :: rest =>
    let repeated :=
      if names.contains label then
        some ⟨place, Text.ofString "keyword argument " ++ label.quote
          ++ Text.ofString " is repeated"⟩
      else none
    firstFlaw [repeated, e.flaw? scope, argsFlaw? scope (label :: names) rest]

/-- The first flaw in clauses, and what is known about names behind them. -/
def clausesFlaw? (scope : Scope) : List Clause → Option Flaw × Scope
  | [] => (none, scope)
  | .each target items :: rest =>
    let found := items.flaw? scope
    let (later, last) :=
      clausesFlaw? { scope with inClause := true, inner := target.targets
        ++ scope.inner } rest
    (firstFlaw [found, later], last)
  | .only test :: rest =>
    let found := test.flaw? scope
    let (later, last) := clausesFlaw? scope rest
    (firstFlaw [found, later], last)

end

mutual

/-- Why an expression cannot be assigned to. -/
def Expr.targetFlaw? (scope : Scope) (changes : Bool) : Expr → Option Flaw
  | .name _ _ => none
  | .index left right => firstFlaw [left.flaw? scope, right.flaw? scope]
  | .dot of _ => of.flaw? scope
  | .paren of _ => of.targetFlaw? scope changes
  | .tuple items place =>
    if changes then some ⟨place, "can't use tuple expression in augmented assignment"⟩
    else targetFlawIn? scope changes items
  | .list items place =>
    if changes then some ⟨place, "can't use list expression in augmented assignment"⟩
    else targetFlawIn? scope changes items
  | e => some ⟨e.start, s!"can't assign to {e.sort}"⟩

/-- Why one of several expressions cannot be assigned to. -/
def targetFlawIn? (scope : Scope) (changes : Bool) : List Expr → Option Flaw
  | [] => none
  | e :: rest =>
      firstFlaw [e.targetFlaw? scope changes, targetFlawIn? scope changes rest]

end

mutual

/-- The names that a statement assigns to. -/
def Statement.targets : Statement → List Text
  | .assign target _ | .augment _ target _ => target.targets
  | .choose _ yes no => assignedIn yes ++ assignedIn no
  | .each target _ body => target.targets ++ assignedIn body
  | .repeated _ body => assignedIn body
  | _ => []

/-- The names that statements assign to. -/
def assignedIn : List Statement → List Text
  | [] => []
  | s :: rest => s.targets ++ assignedIn rest

end

mutual

/-- The first flaw of a statement. -/
def Statement.flaw? (scope : Scope) (inLoop : Bool) : Statement → Option Flaw
  | .expr e => e.flaw? scope
  | .assign target e => firstFlaw [e.flaw? scope, target.targetFlaw? scope false]
  | .augment _ target e => firstFlaw [e.flaw? scope, target.targetFlaw? scope true]
  | .choose test yes no =>
    let behind := { scope with assigned := assignedIn yes ++ scope.assigned }
    firstFlaw [test.flaw? scope, flawAmong? scope inLoop yes,
      flawAmong? behind inLoop no]
  | .each target items body =>
    let inside := { scope with assigned := target.targets ++ scope.assigned }
    firstFlaw [items.flaw? scope, target.targetFlaw? scope false,
      flawAmong? inside true body]
  | .repeated test body => firstFlaw [test.flaw? scope, flawAmong? scope true body]
  | .pass => none
  | .leave goesOn place =>
    if inLoop then none
    else some ⟨place, if goesOn then "continue not in a loop" else "break not in a loop"⟩
  | .giveBack place => some ⟨place, "return statement not within a function"⟩

/-- The first flaw of statements. -/
def flawAmong? (scope : Scope) (inLoop : Bool) : List Statement → Option Flaw
  | [] => none
  | s :: rest =>
    firstFlaw [s.flaw? scope inLoop,
      flawAmong? { scope with assigned := s.targets ++ scope.assigned } inLoop rest]

end

/-- The first flaw of a script to which some names are given. -/
def scriptFlaw? (given : List Text) (script : List Statement) : Option Flaw :=
  flawAmong? ⟨given, assignedIn script, [], [], false⟩ false script

end TapeDuel.Script
