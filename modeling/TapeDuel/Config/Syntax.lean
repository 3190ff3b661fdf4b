import TapeDuel.Config.Scalar

/-!
# The syntax of configuration files

A file is a list of declarations. Most are fields, with a label and an expression. An
expression that stands by itself is embedded: the whole says what it says. What an
expression means is found out when its names are known.
-/

namespace TapeDuel.Config

/-- What a label is good for. -/
inductive LabelSort where
  /-- A field that can be looked up. -/
  | regular
  /-- A definition, which is no setting. -/
  | definition
  /-- A field for the file itself. -/
  | hidden
deriving DecidableEq, Repr

/-- The label of a field. -/
structure Label where
  text : Text
  sort : LabelSort
deriving DecidableEq, Repr

namespace Label

/-- A label that is written as a name: the sign before it says what it is good for. -/
def ofName (name : Text) : Label :=
  match name with
  | b :: _ =>
    if b = Text.byte '_' then ⟨name, .hidden⟩
    else if b = Text.byte '#' then ⟨name, .definition⟩
    else ⟨name, .regular⟩
  | [] => ⟨[], .regular⟩

/-- A label that is written as a string. -/
def ofString (text : Text) : Label :=
  ⟨text, .regular⟩

/-- Whether what the label names admits no further fields. -/
def isDefinition (l : Label) : Bool :=
  l.sort = .definition || (Text.ofString "_#").isPrefixOf l.text

end Label

/-- How much a field says by itself. -/
inductive Presence where
  /-- The field is there. -/
  | present
  /-- The field has to be there. -/
  | required
  /-- The field may be there. -/
  | optional
deriving DecidableEq, Repr

/-- What stands between two expressions. -/
inductive Operator where
  | or
  | and
  | either
  | both
  | equal
  | relation (r : Relation)
  | add
  | sub
  | mul
  | div
deriving DecidableEq, Repr

/-- What stands before an expression. -/
inductive Sign where
  | plus
  | minus
  | not
  /-- The mark of what is meant when nothing else is said. -/
  | default
  | bound (r : Relation)
deriving DecidableEq, Repr

mutual

/-- An expression. -/
inductive Expr where
  | scalar (value : Scalar)
  /-- What cannot be. -/
  | bottom
  | name (text : Text)
  /-- A text with expressions written into it, each with the text behind it. -/
  | template (first : Text) (rest : List (Expr × Text))
  /-- A list; `rest` is what further items are, if there may be any. -/
  | list (items : List Expr) (rest : Option Expr)
  | struct (declarations : List Declaration)
  | sign (sign : Sign) (of : Expr)
  | binary (operator : Operator) (left right : Expr)
  | select (of : Expr) (label : Label)
  | index (of key : Expr)
  | call (function : Expr) (args : List Expr)
  /-- What a definition says: nothing may be added to it. -/
  | closed (of : Expr)

/-- One declaration of a struct. -/
inductive Declaration where
  /-- A field; only a label that is written as a name can be referred to. -/
  | field (label : Label) (isName : Bool) (presence : Presence) (value : Expr)
  /-- What every field is whose label is as the first expression says. -/
  | pattern (label value : Expr)
  | embedded (value : Expr)
  /-- A name for an expression that is no field. -/
  | binding (name : Text) (value : Expr)
  /-- Further fields are welcome. -/
  | ellipsis

end

instance : Inhabited Expr := ⟨.bottom⟩

end TapeDuel.Config
