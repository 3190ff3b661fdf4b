import TapeDuel.Script.Syntax

/-!
# Reading scripts

The statements of a script are read from its tokens, with one token of lookahead. The
first thing that does not fit is reported with what was found and what was wanted.
-/

namespace TapeDuel.Script

/-- Reading from tokens, up to the first flaw. -/
abbrev Reader := StateT (List Token) (Except Flaw)

namespace Reader

/-- Stops with a flaw at a place. -/
def fail {α : Type} (place : Place) (words : Text) : Reader α :=
  fun _ => .error ⟨place, words⟩

/-- The next token; behind the last one there is nothing but the end. -/
def token : Reader Token := do
  match ← get with
  | t :: _ => return t
  | [] => return ⟨.fileEnd, ⟨1, 1⟩, ⟨1, 1⟩⟩

/-- The next symbol. -/
def peek : Reader Symbol :=
  return (← token).symbol

/-- Goes on to the next token, and tells where the one before it started. -/
def advance : Reader Place := do
  let t ← token
  modify fun ts => ts.drop 1
  match ← peek with
  | .flaw place words => fail place words
  | _ => return t.start

/-- Tells that the next token is not what was wanted. -/
def unwanted {α : Type} (wanted : String) : Reader α := do
  let t ← token
  fail t.stop s!"got {t.symbol.describe}, want {wanted}"

/-- Whether the next symbol is the given one. -/
def at_ (s : Symbol) : Reader Bool :=
  return (← peek) = s

/-- Goes on if the next symbol is the given one. -/
def expect (s : Symbol) : Reader Place := do
  if ← at_ s then advance else unwanted s.describe

/-- Whether the next symbol is a mark. -/
def atMark (sign : String) : Reader Bool :=
  at_ (.mark sign)

/-- Whether the next symbol is a keyword. -/
def atWord (word : String) : Reader Bool :=
  at_ (.keyword word)

end Reader

open Reader

/-- Whether a list of expressions cannot go on with the symbol. -/
def endsList : Symbol → Bool
  | .fileEnd | .lineEnd => true
  | .mark sign => ["=", "\x7d", "]", ")", ";"].contains sign
  | _ => false

/-- An operator between expressions, and how tightly it binds. -/
inductive Link where
  | or
  | and
  | operator (o : Operator)

/-- How tightly a sign of negation in words binds. -/
def notLevel : Nat := 2

/-- How tightly comparisons bind. -/
def comparisonLevel : Nat := 3

/-- The number of levels. -/
def levels : Nat := 10

/-- What a symbol links, and how tightly. -/
def linkOf? : Symbol → Option (Link × Nat)
  | .keyword "or" => some (.or, 0)
  | .keyword "and" => some (.and, 1)
  | .keyword "in" => some (.operator .within, 3)
  | .mark sign =>
    match sign with
    | "==" => some (.operator .equal, 3)
    | "!=" => some (.operator .unequal, 3)
    | "<" => some (.operator .less, 3)
    | ">" => some (.operator .greater, 3)
    | "<=" => some (.operator .atMost, 3)
    | ">=" => some (.operator .atLeast, 3)
    | "|" => some (.operator .union, 4)
    | "^" => some (.operator .differ, 5)
    | "&" => some (.operator .both, 6)
    | "<<" => some (.operator .shiftLeft, 7)
    | ">>" => some (.operator .shiftRight, 7)
    | "-" => some (.operator .sub, 8)
    | "+" => some (.operator .add, 8)
    | "*" => some (.operator .mul, 9)
    | "%" => some (.operator .modulo, 9)
    | "/" => some (.operator .divide, 9)
    | "//" => some (.operator .floorDivide, 9)
    | _ => none
  | _ => none

/-- The sign of a link. -/
def Link.sign : Link → String
  | or => "or"
  | and => "and"
  | operator o => o.sign

/-- Two expressions with a link between them. -/
def Link.join : Link → Expr → Expr → Expr
  | or => .or
  | and => .and
  | operator o => .binary o

/-- The operator of an assignment that changes a value. -/
def augmentOf? (sign : String) : Option Operator :=
  match sign with
  | "+=" => some .add
  | "-=" => some .sub
  | "*=" => some .mul
  | "/=" => some .divide
  | "//=" => some .floorDivide
  | "%=" => some .modulo
  | "&=" => some .both
  | "|=" => some .union
  | "^=" => some .differ
  | "<<=" => some .shiftLeft
  | ">>=" => some .shiftRight
  | _ => none

/-- The sign before an expression that a symbol stands for. -/
def signOf? : Symbol → Option Sign
  | .mark "-" => some .minus
  | .mark "+" => some .plus
  | .mark "~" => some .complement
  | _ => none

/-- The constant that a symbol stands for. -/
def constantOf? : Symbol → Option Value
  | .int n => some (.int n)
  | .float bits => some (.float bits)
  | .text t => some (.text t)
  | .bytes t => some (.bytes t)
  | _ => none

/-- A name that has to stand here, and where. -/
def readName : Reader (Text × Place) := do
  match ← peek with
  | .name label => return (label, ← advance)
  | _ => fail (← token).stop "not an identifier"

mutual

/-- An expression, perhaps several ones that make a tuple. -/
def readExpr (fuel : Nat) (inBrackets : Bool) : Reader Expr :=
  match fuel with
  | 0 => unwanted "less"
  | fuel + 1 => do
    let e ← readTest fuel
    if ← atMark "," then return .tuple (e :: (← readMore fuel inBrackets)) e.start
    else return e

/-- The expressions behind a comma. Only in brackets may the last one have a comma
behind it. -/
def readMore (fuel : Nat) (inBrackets : Bool) : Reader (List Expr) :=
  match fuel with
  | 0 => unwanted "less"
  | fuel + 1 => do
    if ← atMark "," then
      let comma ← advance
      if endsList (← peek) then
        if inBrackets then return []
        else fail comma "unparenthesized tuple with trailing comma"
      else
        let e ← readTest fuel
        return e :: (← readMore fuel inBrackets)
    else return []

/-- One expression, perhaps with a condition. -/
def readTest (fuel : Nat) : Reader Expr :=
  match fuel with
  | 0 => unwanted "less"
  | fuel + 1 => do
    let e ← readLevel fuel 0
    if ← atWord "if" then
      let place ← advance
      let test ← readLevel fuel 0
      if ← atWord "else" then
        let _ ← advance
        return .cond test e (← readTest fuel)
      else fail place "conditional expression without else clause"
    else return e

/-- An expression whose operators bind at least as tightly as `level`. -/
def readLevel (fuel level : Nat) : Reader Expr :=
  match fuel with
  | 0 => unwanted "less"
  | fuel + 1 => do
    if levels ≤ level then readOperand fuel
    else if (← atWord "not") && level = notLevel then
      let place ← advance
      return .unary .not (← readLevel fuel level) place
    else
      let e ← readLevel fuel (level + 1)
      continueLevel fuel level none e

/-- The operators behind an expression that bind at least as tightly as `level`.
Comparisons do not follow each other; `before` is the link that the expression was
made with. -/
def continueLevel (fuel level : Nat) (before : Option Link) (left : Expr) :
    Reader Expr :=
  match fuel with
  | 0 => unwanted "less"
  | fuel + 1 => do
    let ahead ← get
    let negated ← atWord "not"
    if negated then
      let _ ← advance
      if !(← atWord "in") then unwanted "in"
    match linkOf? (← peek) with
    | none => return left
    | some (link, binding) =>
      let link := if negated then .operator .notWithin else link
      if binding < level then
        set ahead
        return left
      else
        match before with
        | some earlier =>
          if binding = comparisonLevel then
            fail (← token).stop
              s!"{earlier.sign} does not associate with {link.sign} (use parens)"
        | none => pure ()
        let _ ← advance
        let right ← readLevel fuel (binding + 1)
        continueLevel fuel level (some link) (link.join left right)

/-- An expression with all the names, keys and arguments behind it. -/
def readOperand (fuel : Nat) : Reader Expr :=
  match fuel with
  | 0 => unwanted "less"
  | fuel + 1 => do
    let e ← readPrimary fuel
    extend fuel e

/-- Adds the names, keys and arguments behind an expression. -/
def extend (fuel : Nat) (e : Expr) : Reader Expr :=
  match fuel with
  | 0 => unwanted "less"
  | fuel + 1 => do
    if ← atMark "." then
      let _ ← advance
      let (label, _) ← readName
      extend fuel (.dot e label)
    else if ← atMark "[" then
      let e ← readKey fuel e
      extend fuel e
    else if ← atMark "(" then
      let _ ← advance
      let args ← readArguments fuel true
      let _ ← expect (.mark ")")
      extend fuel (.call e args)
    else return e

/-- A key behind an expression, or bounds of a part. -/
def readKey (fuel : Nat) (e : Expr) : Reader Expr :=
  match fuel with
  | 0 => unwanted "less"
  | fuel + 1 => do
    let _ ← advance
    let low ← if ← atMark ":" then pure none else some <$> readExpr fuel false
    match low, ← atMark "]" with
    | some key, true =>
      let _ ← advance
      return .index e key
    | low, _ =>
      let colon ← atMark ":"
      if colon then
        let _ ← advance
      let high ←
        if colon && !(← atMark ":") && !(← atMark "]") then some <$> readTest fuel
        else pure none
      let second ← atMark ":"
      if second then
        let _ ← advance
      let step ← if second && !(← atMark "]") then some <$> readTest fuel else pure none
      let _ ← expect (.mark "]")
      return .slice e low high step

/-- Arguments up to the closing bracket. -/
def readArguments (fuel : Nat) (first : Bool) : Reader (List Argument) :=
  match fuel with
  | 0 => unwanted "less"
  | fuel + 1 => do
    if (← atMark ")") || (← at_ .fileEnd) then return []
    else
      if !first then
        let _ ← expect (.mark ",")
      if ← atMark ")" then return []
      else
        let e ← readTest fuel
        if ← atMark "=" then
          match e with
          | .name label place =>
            let _ ← advance
            let value ← readTest fuel
            return .named label place value :: (← readArguments fuel false)
          | _ => fail (← token).stop "keyword argument must have form name=expr"
        else return .plain e :: (← readArguments fuel false)

/-- An expression without anything behind it. -/
def readPrimary (fuel : Nat) : Reader Expr :=
  match fuel with
  | 0 => unwanted "less"
  | fuel + 1 => do
    let t ← token
    match t.symbol, constantOf? t.symbol, signOf? t.symbol with
    | .name label, _, _ => return .name label (← advance)
    | _, some value, _ => return .constant value (← advance)
    | _, _, some sign =>
      let place ← advance
      return .unary sign (← readOperand fuel) place
    | .mark "[", _, _ =>
      let place ← advance
      if ← atMark "]" then
        let _ ← advance
        return .list [] place
      else
        let e ← readTest fuel
        if ← atWord "for" then
          return .listOf e (← readClauses fuel "]") place
        else
          let more ← readMore fuel true
          let _ ← expect (.mark "]")
          return .list (e :: more) place
    | .mark "\x7b", _, _ =>
      let place ← advance
      if ← atMark "\x7d" then
        let _ ← advance
        return .dict [] place
      else
        let (key, value) ← readEntry fuel
        if ← atWord "for" then
          return .dictOf key value (← readClauses fuel "\x7d") place
        else
          let more ← readEntries fuel
          let _ ← expect (.mark "\x7d")
          return .dict ((key, value) :: more) place
    | .mark "(", _, _ =>
      let place ← advance
      if ← atMark ")" then
        let _ ← advance
        return .tuple [] place
      else
        let e ← readExpr fuel true
        let _ ← expect (.mark ")")
        return .paren e place
    | symbol, _, _ => fail t.start s!"got {symbol.describe}, want primary expression"

/-- A key with its value. -/
def readEntry (fuel : Nat) : Reader (Expr × Expr) :=
  match fuel with
  | 0 => unwanted "less"
  | fuel + 1 => do
    let key ← readTest fuel
    let _ ← expect (.mark ":")
    return (key, ← readTest fuel)

/-- The keys with their values behind a comma. -/
def readEntries (fuel : Nat) : Reader (List (Expr × Expr)) :=
  match fuel with
  | 0 => unwanted "less"
  | fuel + 1 => do
    if ← atMark "," then
      let _ ← advance
      if ← atMark "\x7d" then return []
      else
        let entry ← readEntry fuel
        return entry :: (← readEntries fuel)
    else return []

/-- The clauses up to a closing bracket. -/
def readClauses (fuel : Nat) (closing : String) : Reader (List Clause) :=
  match fuel with
  | 0 => unwanted "less"
  | fuel + 1 => do
    if ← atMark closing then
      let _ ← advance
      return []
    else if ← atWord "for" then
      let _ ← advance
      let target ← readTargets fuel
      let _ ← expect (.keyword "in")
      let items ← readLevel fuel 0
      return .each target items :: (← readClauses fuel closing)
    else if ← atWord "if" then
      let _ ← advance
      let test ← readLevel fuel 0
      return .only test :: (← readClauses fuel closing)
    else unwanted s!"'{closing}', for, or if"

/-- What a loop gives values to. -/
def readTargets (fuel : Nat) : Reader Expr :=
  match fuel with
  | 0 => unwanted "less"
  | fuel + 1 => do
    let e ← readOperand fuel
    if ← atMark "," then return .tuple (e :: (← moreTargets fuel)) e.start else return e

/-- What a loop gives values to behind a comma. -/
def moreTargets (fuel : Nat) : Reader (List Expr) :=
  match fuel with
  | 0 => unwanted "less"
  | fuel + 1 => do
    if ← atMark "," then
      let _ ← advance
      if endsList (← peek) then return []
      else
        let e ← readOperand fuel
        return e :: (← moreTargets fuel)
    else return []

end

/-- A statement that fits on a line with others. -/
def readSmall (fuel : Nat) : Reader Statement := do
  match ← peek with
  | .keyword "return" =>
    let place ← advance
    if !((← at_ .fileEnd) || (← at_ .lineEnd) || (← atMark ";")) then
      let _ ← readExpr fuel false
    return .giveBack place
  | .keyword "break" => return .leave false (← advance)
  | .keyword "continue" => return .leave true (← advance)
  | .keyword "pass" =>
    let _ ← advance
    return .pass
  | _ =>
    let e ← readExpr fuel false
    match ← peek with
    | .mark "=" =>
      let _ ← advance
      return .assign e (← readExpr fuel false)
    | .mark sign =>
      match augmentOf? sign with
      | some operator =>
        let _ ← advance
        return .augment operator e (← readExpr fuel false)
      | none => return .expr e
    | _ => return .expr e

mutual

/-- Statements up to the end of the line. -/
def readSimple (fuel : Nat) : Reader (List Statement) :=
  match fuel with
  | 0 => unwanted "less"
  | fuel + 1 => do
    let s ← readSmall fuel
    if ← atMark ";" then
      let _ ← advance
      if ← at_ .fileEnd then return [s]
      else if ← at_ .lineEnd then
        let _ ← advance
        return [s]
      else return s :: (← readSimple fuel)
    else
      if !(← at_ .fileEnd) then
        let _ ← expect .lineEnd
      return [s]

/-- The statements that belong to what stands before a colon. -/
def readSuite (fuel : Nat) : Reader (List Statement) :=
  match fuel with
  | 0 => unwanted "less"
  | fuel + 1 => do
    let _ ← expect (.mark ":")
    if ← at_ .lineEnd then
      let _ ← advance
      let _ ← expect .indent
      let body ← readBlock fuel
      let _ ← expect .outdent
      return body
    else readSimple fuel

/-- Statements up to the end of a block. -/
def readBlock (fuel : Nat) : Reader (List Statement) :=
  match fuel with
  | 0 => unwanted "less"
  | fuel + 1 => do
    if (← at_ .outdent) || (← at_ .fileEnd) then return []
    else
      let first ← readStatement fuel
      return first ++ (← readBlock fuel)

/-- What follows a condition: its block, and what is done otherwise. -/
def readChoice (fuel : Nat) : Reader Statement :=
  match fuel with
  | 0 => unwanted "less"
  | fuel + 1 => do
    let _ ← advance
    let test ← readTest fuel
    let yes ← readSuite fuel
    if ← atWord "elif" then return .choose test yes [← readChoice fuel]
    else if ← atWord "else" then
      let _ ← advance
      return .choose test yes (← readSuite fuel)
    else return .choose test yes []

/-- A statement with all that belongs to it, or several ones on a line. -/
def readStatement (fuel : Nat) : Reader (List Statement) :=
  match fuel with
  | 0 => unwanted "less"
  | fuel + 1 => do
    match ← peek with
    | .keyword "if" => return [← readChoice fuel]
    | .keyword "for" =>
      let _ ← advance
      let target ← readTargets fuel
      let _ ← expect (.keyword "in")
      let items ← readExpr fuel false
      return [.each target items (← readSuite fuel)]
    | .keyword "while" =>
      let _ ← advance
      let test ← readTest fuel
      return [.repeated test (← readSuite fuel)]
    | _ => readSimple fuel

end

/-- The statements of a whole script. -/
def readAll (fuel : Nat) : Reader (List Statement) :=
  match fuel with
  | 0 => unwanted "less"
  | fuel + 1 => do
    match ← peek with
    | .flaw place words => fail place words
    | .fileEnd => return []
    | .lineEnd =>
      let _ ← advance
      readAll fuel
    | _ =>
      let first ← readStatement fuel
      return first ++ (← readAll fuel)

/-- How much fuel is enough for tokens: every step of the reader goes one token on
after few others. -/
def fuelFor (ts : List Token) : Nat :=
  24 * ts.length + 24

/-- The statements of a script, or what is wrong with it. -/
def statementsOf (t : Text) : Except Flaw (List Statement) :=
  let ts := Token.ofText t
  ((readAll (fuelFor ts)).run ts).map Prod.fst

end TapeDuel.Script
