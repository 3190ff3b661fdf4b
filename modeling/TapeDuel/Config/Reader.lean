import TapeDuel.Config.Syntax
import TapeDuel.Config.Token

/-!
# Reading configuration files

The declarations of a file are read from its tokens. A label in front of another one
makes a struct of it. Fields end with a comma or with their line; the items of a list
need their commas, only the last may end with its line.
-/

namespace TapeDuel.Config

/-- Tokens that are still to be read. -/
abbrev Tokens := List Token

/-- What follows a mark that has to stand here. -/
def expect (m : String) : Tokens → Option Tokens
  | .mark text :: rest => if text = Text.ofString m then some rest else none
  | _ => none

/-- Whether the tokens start with a mark. -/
def startsWith (m : String) (ts : Tokens) : Bool :=
  (expect m ts).isSome

/-- What follows the end of a declaration. -/
def afterEnd : Tokens → Option Tokens
  | .lineEnd :: rest => some rest
  | ts => expect "," ts

/-- The colon behind a label, with the mark that may stand before it, and what
follows. -/
def takeColon (ts : Tokens) : Option (Presence × Tokens) :=
  match ts with
  | .mark m :: rest =>
    if m = Text.ofString ":" then some (.present, rest)
    else if m = Text.ofString "?" then (expect ":" rest).map fun rest =>
      (.optional, rest)
    else if m = Text.ofString "!" then (expect ":" rest).map fun rest =>
      (.required, rest)
    else none
  | _ => none

/-- The label at the start of the tokens, whether it is a name, what it says by
itself, and what follows its colon. -/
def takeLabel : Tokens → Option (Label × Bool × Presence × Tokens)
  | .name name :: rest =>
    if name = Text.ofString "_" then none
    else (takeColon rest).map fun (presence, rest) =>
      (.ofName name, true, presence, rest)
  | .string text _ :: rest =>
    (takeColon rest).map fun (presence, rest) => (.ofString text, false, presence, rest)
  | _ => none

/-- The scalars that have names. -/
def namedScalar? (name : Text) : Option Scalar :=
  if name = Text.ofString "null" then some .null
  else if name = Text.ofString "true" then some (.bool true)
  else if name = Text.ofString "false" then some (.bool false)
  else none

/-- The expression of a name. -/
def Expr.ofName (name : Text) : Expr :=
  match namedScalar? name with
  | some value => .scalar value
  | none => .name name

/-- The relation that a mark stands for. -/
def relationOf? (m : Text) : Option Relation :=
  if m = Text.ofString "<" then some .less
  else if m = Text.ofString "<=" then some .atMost
  else if m = Text.ofString ">" then some .greater
  else if m = Text.ofString ">=" then some .atLeast
  else if m = Text.ofString "!=" then some .unequal
  else none

/-- The sign that a mark stands for. -/
def signOf? (m : Text) : Option Sign :=
  if m = Text.ofString "+" then some .plus
  else if m = Text.ofString "-" then some .minus
  else if m = Text.ofString "!" then some .not
  else if m = Text.ofString "*" then some .default
  else (relationOf? m).map .bound

/-- The operator that a mark stands for, and how tightly it binds. -/
def operatorOf? (m : Text) : Option (Operator × Nat) :=
  if m = Text.ofString "|" then some (.or, 1)
  else if m = Text.ofString "&" then some (.and, 2)
  else if m = Text.ofString "||" then some (.either, 3)
  else if m = Text.ofString "&&" then some (.both, 4)
  else if m = Text.ofString "==" then some (.equal, 5)
  else if m = Text.ofString "+" then some (.add, 6)
  else if m = Text.ofString "-" then some (.sub, 6)
  else if m = Text.ofString "*" then some (.mul, 7)
  else if m = Text.ofString "/" then some (.div, 7)
  else (relationOf? m).map fun r => (.relation r, 5)

mutual

/-- An expression without anything before or behind it. -/
def readOperand (fuel : Nat) (ts : Tokens) : Option (Expr × Tokens) :=
  match fuel, ts with
  | 0, _ | _, [] => none
  | fuel + 1, t :: rest =>
    match t with
    | .name name => some (.ofName name, rest)
    | .scalar value => some (.scalar value, rest)
    | .string text _ => some (.scalar (.string text), rest)
    | .head first =>
      (readTemplate fuel rest).map fun (parts, rest) => (.template first parts, rest)
    | .mark m =>
      if m = Text.ofString "(" then
        match readExpr fuel rest with
        | some (e, rest) => (expect ")" rest).map fun rest => (e, rest)
        | none => none
      else if m = Text.ofString "\x7b" then
        (readDeclarations fuel true rest).map fun (ds, rest) => (.struct ds, rest)
      else if m = Text.ofString "[" then readItems fuel [] rest
      else if m = Text.ofString "_|_" then some (.bottom, rest)
      else none
    | _ => none

/-- The expressions written into a text, each with the text behind it. -/
def readTemplate (fuel : Nat) (ts : Tokens) : Option (List (Expr × Text) × Tokens) :=
  match fuel with
  | 0 => none
  | fuel + 1 =>
    match readExpr fuel ts with
    | some (e, .tail text :: rest) => some ([(e, text)], rest)
    | some (e, .middle text :: rest) =>
      (readTemplate fuel rest).map fun (parts, rest) => ((e, text) :: parts, rest)
    | _ => none

/-- An expression with all the selectors and arguments behind it. -/
def extend (fuel : Nat) (e : Expr) (ts : Tokens) : Option (Expr × Tokens) :=
  match fuel with
  | 0 => none
  | fuel + 1 =>
    match ts with
    | .mark m :: rest =>
      if m = Text.ofString "." then
        match rest with
        | .name name :: rest => extend fuel (.select e (.ofName name)) rest
        | .string text true :: rest =>
          if text.isEmpty then none else extend fuel (.select e (.ofString text)) rest
        | _ => none
      else if m = Text.ofString "[" then
        match readExpr fuel rest with
        | some (key, rest) =>
            (expect "]" rest).bind fun rest => extend fuel (.index e key) rest
        | none => none
      else if m = Text.ofString "(" then
        match readArgs fuel rest with
        | some (args, rest) => extend fuel (.call e args) rest
        | none => none
      else some (e, ts)
    | _ => some (e, ts)

/-- Arguments up to the closing bracket. -/
def readArgs (fuel : Nat) (ts : Tokens) : Option (List Expr × Tokens) :=
  match fuel with
  | 0 => none
  | fuel + 1 =>
    match expect ")" ts with
    | some rest => some ([], rest)
    | none =>
      match readExpr fuel ts with
      | none => none
      | some (e, rest) =>
        match afterEnd rest, expect ")" rest with
        | some rest, _ => (readArgs fuel rest).map fun (es, rest) => (e :: es, rest)
        | none, some rest => some ([e], rest)
        | none, none => none

/-- An expression with the signs before it. -/
def readSigned (fuel : Nat) (ts : Tokens) : Option (Expr × Tokens) :=
  match fuel with
  | 0 => none
  | fuel + 1 =>
    match ts with
    | .mark m :: rest =>
      match signOf? m with
      | some sign => (readSigned fuel rest).map fun (e, rest) => (.sign sign e, rest)
      | none => (readOperand fuel ts).bind fun (e, rest) => extend fuel e rest
    | _ => (readOperand fuel ts).bind fun (e, rest) => extend fuel e rest

/-- An expression whose operators bind at least as tightly as `least`. -/
def readBinary (fuel least : Nat) (ts : Tokens) : Option (Expr × Tokens) :=
  match fuel with
  | 0 => none
  | fuel + 1 =>
    match readSigned fuel ts with
    | some (e, rest) => continueBinary fuel least e rest
    | none => none

/-- The operators behind an expression, as far as they bind at least as tightly as
`least`. -/
def continueBinary (fuel least : Nat) (left : Expr) (ts : Tokens) :
    Option (Expr × Tokens) :=
  match fuel with
  | 0 => none
  | fuel + 1 =>
    match ts with
    | .mark m :: rest =>
      match operatorOf? m with
      | some (operator, tightness) =>
        if tightness < least then some (left, ts)
        else
          match readBinary fuel (tightness + 1) rest with
          | some (right, rest) =>
              continueBinary fuel least (.binary operator left right) rest
          | none => none
      | none => some (left, ts)
    | _ => some (left, ts)

/-- An expression. -/
def readExpr (fuel : Nat) (ts : Tokens) : Option (Expr × Tokens) :=
  match fuel with
  | 0 => none
  | fuel + 1 => readBinary fuel 1 ts

/-- The items of a list up to its closing bracket; `items` are those before, latest
first. -/
def readItems (fuel : Nat) (items : List Expr) (ts : Tokens) : Option (Expr × Tokens) :=
  match fuel with
  | 0 => none
  | fuel + 1 =>
    match expect "]" ts, expect "..." ts with
    | some rest, _ => some (.list items.reverse none, rest)
    | none, some rest =>
      match expect "]" ((afterEnd rest).getD rest) with
      | some rest => some (.list items.reverse (some (.name (Text.ofString "_"))), rest)
      | none =>
        match readExpr fuel rest with
        | none => none
        | some (e, rest) =>
          (expect "]" ((afterEnd rest).getD rest)).map fun rest =>
            (.list items.reverse (some e), rest)
    | none, none =>
      match readExpr fuel ts with
      | none => none
      | some (e, rest) =>
        match expect "," rest with
        | some rest => readItems fuel (e :: items) rest
        | none =>
          (expect "]" ((afterEnd rest).getD rest)).map fun rest =>
            (.list (e :: items).reverse none, rest)

/-- What follows the colon of a label: a label may stand in front of another one. -/
def readField (fuel : Nat) (ts : Tokens) : Option (Expr × Tokens) :=
  match fuel with
  | 0 => none
  | fuel + 1 =>
    match takeLabel ts with
    | some (label, isName, presence, rest) =>
      (readField fuel rest).map fun (e, rest) =>
        (.struct [.field label isName presence e], rest)
    | none =>
      match readExpr fuel ts with
      | none => none
      | some (.list [label] none, rest) =>
        match takeColon rest with
        | some (_, after) =>
          (readField fuel after).map fun (e, rest) => (.struct [.pattern label e], rest)
        | none => some (.list [label] none, rest)
      | some found => some found

/-- One declaration; a remark declares nothing. -/
def readDeclaration (fuel : Nat) (ts : Tokens) : Option (List Declaration × Tokens) :=
  match fuel with
  | 0 => none
  | fuel + 1 =>
    match takeLabel ts, ts with
    | some (label, isName, presence, rest), _ =>
      (readField fuel rest).map fun (e, rest) =>
        ([.field label isName presence e], rest.dropWhile (· = .remark))
    | none, .remark :: rest => some ([], rest)
    | none, .name word :: .name name :: rest =>
      if word = Text.ofString "let" then
        match expect "=" rest with
        | none => none
        | some rest => (readExpr fuel rest).map fun (e, rest) =>
            ([.binding name e], rest)
      else none
    | none, ts =>
      match expect "..." ts with
      | some rest => some ([.ellipsis], rest)
      | none =>
        match readField fuel ts with
        | some (.struct [.pattern label e], rest) =>
          some ([.pattern label e], rest.dropWhile (· = .remark))
        | some (e, rest) => some ([.embedded e], rest)
        | none => none

/-- Declarations up to the closing brace, or up to the end of the file. -/
def readDeclarations (fuel : Nat) (inBraces : Bool) (ts : Tokens) :
    Option (List Declaration × Tokens) :=
  match fuel with
  | 0 => none
  | fuel + 1 =>
    if inBraces && startsWith "\x7d" ts then some ([], ts.drop 1)
    else if !inBraces && ts.isEmpty then some ([], [])
    else
      match readDeclaration fuel ts with
      | none => none
      | some (ds, rest) =>
        match afterEnd rest with
        | some rest =>
          (readDeclarations fuel inBraces rest).map fun (more, end_) =>
            (ds ++ more, end_)
        | none =>
          if inBraces && startsWith "\x7d" rest then some (ds, rest.drop 1) else none

end

/-- How much fuel is enough for tokens: every step of the reader goes one token on
after few others. -/
def fuelFor (ts : Tokens) : Nat :=
  12 * ts.length + 12

/-- The tokens of a file behind its package clause, if it has one. -/
def afterPackage (ts : Tokens) : Option Tokens :=
  match ts with
  | .name word :: rest =>
    if word = Text.ofString "package" then
      match rest with
      | .name _ :: rest => afterEnd rest
      | _ => none
    else if word = Text.ofString "import" then none
    else some ts
  | _ => some ts

/-- The declarations of a text. -/
def declarations? (t : Text) : Option (List Declaration) := do
  let ts ← afterPackage (← Token.ofText t)
  let (ds, _) ← readDeclarations (fuelFor ts) false ts
  return ds

end TapeDuel.Config
