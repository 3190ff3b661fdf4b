import TapeDuel.Config.Syntax

/-!
# Names in configuration files

A name refers to the field of that name in the nearest struct around it that has one,
or to something that every file knows. Names are taken away by putting what they refer
to in their place. A field that refers to itself says nothing by that.
-/

namespace TapeDuel.Config

/-- The declarations around a place, the nearest first. -/
abbrev Scopes := List (List Declaration)

/-- The name of what says nothing. -/
def anythingName : Text :=
  "_"

/-- The names that every file knows. -/
def knownNames : List Text :=
  ["_", "bool", "string", "bytes", "int", "float", "number", "uint", "int8", "int16",
    "int32", "int64", "int128", "uint8", "uint16", "uint32", "uint64", "uint128",
    "rune", "float32", "float64", "close", "len", "and", "or"]

/-- Whether a declaration gives a meaning to a name. -/
def Declaration.names (name : Text) : Declaration → Bool
  | field label isName _ _ => isName && label.text = name
  | binding n _ => n = name
  | _ => false

/-- What a declaration says of a name, if it does not only allow for it. -/
def Declaration.meaning? (name : Text) : Declaration → Option Expr
  | field label isName presence value =>
    if isName && label.text = name && presence ≠ .optional then some value else none
  | binding n value => if n = name then some value else none
  | _ => none

/-- The scopes from the nearest one on that knows a name. -/
def scopesOf (name : Text) : Scopes → Scopes
  | [] => []
  | ds :: outer =>
      if ds.any (Declaration.names name) then ds :: outer else scopesOf name outer

/-- What several expressions say together. -/
def allOf : List Expr → Expr
  | [] => .name anythingName
  | [e] => e
  | e :: rest => .binary .and e (allOf rest)

/-- What depends on a field that is not there. -/
def missing (label : Label) : Expr :=
  .select (.struct []) label

mutual

/-- An expression without names but the known ones; none if a name means nothing. The
names in `busy` are being followed already, each with the number of scopes around it.
-/
def resolve (fuel : Nat) (scopes : Scopes) (busy : List (Nat × Text)) (e : Expr) :
    Option Expr :=
  match fuel with
  | 0 => none
  | fuel + 1 =>
    match e with
    | .scalar _ | .bottom => some e
    | .name name =>
      match scopesOf name scopes with
      | [] => if knownNames.contains name then some e else none
      | ds :: outer =>
        let place := (outer.length, name)
        if busy.contains place then some (.name anythingName)
        else
          match ds.filterMap (Declaration.meaning? name) with
          | [] => some (missing (.ofName name))
          | meanings =>
            (meanings.mapM fun m =>
                resolve fuel (ds :: outer) (place :: busy) m).map fun es =>
              if (Label.ofName name).isDefinition then .closed (allOf es) else allOf es
    | .template first parts =>
      (parts.mapM fun (part : Expr × Text) =>
          (resolve fuel scopes busy part.1).map fun e => (e, part.2)).map
        (.template first ·)
    | .list items none =>
        (items.mapM fun e => resolve fuel scopes busy e).map (.list · none)
    | .list items (some rest) =>
      match items.mapM fun e => resolve fuel scopes busy e,
          resolve fuel scopes busy rest with
      | some items, some rest => some (.list items (some rest))
      | _, _ => none
    | .struct ds =>
      (ds.mapM fun d => resolveDeclaration fuel (ds :: scopes) busy d).map .struct
    | .sign s of => (resolve fuel scopes busy of).map (.sign s ·)
    | .binary operator left right =>
      match resolve fuel scopes busy left, resolve fuel scopes busy right with
      | some left, some right => some (.binary operator left right)
      | _, _ => none
    | .select of label => (resolve fuel scopes busy of).map (.select · label)
    | .index of key =>
      match resolve fuel scopes busy of, resolve fuel scopes busy key with
      | some of, some key => some (.index of key)
      | _, _ => none
    | .call f args =>
      match resolve fuel scopes busy f,
          args.mapM fun e => resolve fuel scopes busy e with
      | some f, some args => some (.call f args)
      | _, _ => none
    | .closed of => (resolve fuel scopes busy of).map .closed

/-- A declaration without names but the known ones. -/
def resolveDeclaration (fuel : Nat) (scopes : Scopes) (busy : List (Nat × Text))
    (d : Declaration) : Option Declaration :=
  match fuel with
  | 0 => none
  | fuel + 1 =>
    match d with
    | .field label isName presence value =>
      (resolve fuel scopes busy value).map (.field label isName presence ·)
    | .pattern label value =>
      match resolve fuel scopes busy label, resolve fuel scopes busy value with
      | some label, some value => some (.pattern label value)
      | _, _ => none
    | .embedded value => (resolve fuel scopes busy value).map .embedded
    | .binding name value => (resolve fuel scopes busy value).map (.binding name ·)
    | .ellipsis => some .ellipsis

end

end TapeDuel.Config
