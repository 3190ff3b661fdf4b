import TapeDuel.Script.Token
import TapeDuel.Script.Value

/-!
# The syntax of scripts

A script is a list of statements. What can go wrong before a script is run is pointed
at, so expressions remember where they start.
-/

namespace TapeDuel.Script

/-- What stands between two expressions that are both computed. -/
inductive Operator where
  | equal
  | unequal
  | less
  | greater
  | atMost
  | atLeast
  | within
  | notWithin
  | union
  | differ
  | both
  | shiftLeft
  | shiftRight
  | add
  | sub
  | mul
  | modulo
  | divide
  | floorDivide
deriving DecidableEq, Repr

/-- The sign of an operator. -/
def Operator.sign : Operator → String
  | equal => "=="
  | unequal => "!="
  | less => "<"
  | greater => ">"
  | atMost => "<="
  | atLeast => ">="
  | within => "in"
  | notWithin => "not in"
  | union => "|"
  | differ => "^"
  | both => "&"
  | shiftLeft => "<<"
  | shiftRight => ">>"
  | add => "+"
  | sub => "-"
  | mul => "*"
  | modulo => "%"
  | divide => "/"
  | floorDivide => "//"

/-- What stands before an expression. -/
inductive Sign where
  | not
  | minus
  | plus
  | complement
deriving DecidableEq, Repr

/-- The sign as it is written. -/
def Sign.text : Sign → String
  | not => "not"
  | minus => "-"
  | plus => "+"
  | complement => "~"

mutual

/-- An expression. -/
inductive Expr where
  | name (label : Text) (place : Place)
  | constant (value : Value) (place : Place)
  | list (items : List Expr) (place : Place)
  | tuple (items : List Expr) (place : Place)
  | dict (entries : List (Expr × Expr)) (place : Place)
  | paren (of : Expr) (place : Place)
  | unary (sign : Sign) (of : Expr) (place : Place)
  | binary (operator : Operator) (left right : Expr)
  | and (left right : Expr)
  | or (left right : Expr)
  | cond (test yes no : Expr)
  | dot (of : Expr) (label : Text)
  | index (of key : Expr)
  | slice (of : Expr) (low high step : Option Expr)
  | call (function : Expr) (args : List Argument)
  /-- The values of an expression for all that some clauses run through. -/
  | listOf (item : Expr) (clauses : List Clause) (place : Place)
  | dictOf (key value : Expr) (clauses : List Clause) (place : Place)

/-- An argument of a call, perhaps with a name and where that stands. -/
inductive Argument where
  | plain (value : Expr)
  | named (label : Text) (place : Place) (value : Expr)

/-- What an expression is computed for. -/
inductive Clause where
  | each (target items : Expr)
  | only (test : Expr)

end

namespace Expr

/-- Where an expression starts. -/
def start : Expr → Place
  | name _ place | constant _ place | list _ place | tuple _ place | dict _ place
      | paren _ place
  | unary _ _ place | listOf _ _ place | dictOf _ _ _ place => place
  | binary _ left _ | and left _ | or left _ => left.start
  | cond _ yes _ => yes.start
  | dot of _ | index of _ | slice of _ _ _ => of.start
  | call function _ => function.start

/-- What an expression is called when it should not stand where it stands. -/
def sort : Expr → String
  | name _ _ => "ident"
  | constant _ _ => "literal"
  | list _ _ => "listexpr"
  | tuple _ _ => "tupleexpr"
  | dict _ _ => "dictexpr"
  | paren _ _ => "parenexpr"
  | unary _ _ _ => "unaryexpr"
  | binary _ _ _ | and _ _ | or _ _ => "binaryexpr"
  | cond _ _ _ => "condexpr"
  | dot _ _ => "dotexpr"
  | index _ _ => "indexexpr"
  | slice _ _ _ _ => "sliceexpr"
  | call _ _ => "callexpr"
  | listOf _ _ _ | dictOf _ _ _ _ => "comprehension"

end Expr

/-- A statement. -/
inductive Statement where
  | expr (value : Expr)
  | assign (target value : Expr)
  | augment (operator : Operator) (target value : Expr)
  | choose (test : Expr) (yes no : List Statement)
  | each (target items : Expr) (body : List Statement)
  | repeated (test : Expr) (body : List Statement)
  | pass
  /-- Leaves the loop around it, or only this round of it. -/
  | leave (goesOn : Bool) (place : Place)
  /-- What only makes sense inside of a function. -/
  | giveBack (place : Place)

end TapeDuel.Script
