import TapeDuel.Script.Literal
import TapeDuel.Text.Letter

/-!
# Tokens of scripts

A script is read line by line. The blanks before a line count: more of them than
before start a block, fewer end one. Inside of brackets neither they nor line ends
mean anything. Reading stops at the first character that no token starts with; this
becomes a token too, so that what stands before it is looked at first.
-/

namespace TapeDuel.Script

/-- Where something stands in a script, both counted from one. -/
structure Place where
  line : Nat
  column : Nat
deriving DecidableEq, Repr

namespace Place

/-- The place behind a character. -/
def next (place : Place) (c : Char) : Place :=
  if c = '\n' then ⟨place.line + 1, 1⟩ else ⟨place.line, place.column + 1⟩

/-- The place behind some characters. -/
def after (place : Place) (cs : List Char) : Place :=
  cs.foldl next place

end Place

/-- What is wrong with a script, and where. -/
structure Flaw where
  place : Place
  words : Text

/-- What a script is made of. -/
inductive Symbol where
  | name (text : Text)
  | int (value : Nat)
  | float (bits : Nat)
  | text (value : Text)
  | bytes (value : Text)
  | mark (sign : String)
  | keyword (word : String)
  /-- A word that is kept free and means nothing. -/
  | reserved
  | lineEnd
  | indent
  | outdent
  | fileEnd
  /-- Where reading stopped, and why. -/
  | flaw (place : Place) (words : Text)
deriving DecidableEq

namespace Symbol

/-- A symbol in words. -/
def describe : Symbol → String
  | name _ => "identifier"
  | int _ => "int literal"
  | float _ => "float literal"
  | text _ => "string literal"
  | bytes _ => "bytes literal"
  | mark sign => s!"'{sign}'"
  | keyword word => word
  | reserved | flaw _ _ => "illegal token"
  | lineEnd => "newline"
  | indent => "indent"
  | outdent => "outdent"
  | fileEnd => "end of file"

end Symbol

/-- A symbol, where it starts, and where it ends. -/
structure Token where
  symbol : Symbol
  start : Place
  stop : Place

namespace Token

/-! ## Words and marks -/

/-- The words that are no names. -/
def keywords : List String :=
  ["and", "break", "continue", "def", "elif", "else", "for", "if", "in", "lambda",
    "load", "not", "or", "pass", "return", "while"]

/-- The words that are kept free. -/
def reservedWords : List String :=
  ["as", "class", "del", "except", "finally", "from", "global", "import", "is",
    "nonlocal", "raise", "try", "with", "yield"]

/-- The marks, of which none stands behind one that it starts with. -/
def marks : List String :=
  ["//=", "<<=", ">>=", "==", "!=", "<=", ">=", "+=", "-=", "*=", "/=", "%=", "&=",
    "|=", "^=", "**", "//", "<<", ">>", "+", "-", "*", "/", "%", "&", "|", "^", "~",
    ".", ",", "=", ";", ":", "(", ")", "[", "]", "\x7b", "\x7d", "<", ">"]

/-- Whether a mark opens a bracket. -/
def opens (sign : String) : Bool :=
  ["(", "[", "\x7b"].contains sign

/-- Whether a mark closes a bracket. -/
def closes (sign : String) : Bool :=
  [")", "]", "\x7d"].contains sign

/-- Whether a name may start with the character. -/
def startsName (c : Char) : Bool :=
  c.isAlpha || c = '_' || (128 ≤ c.val && isLetterCode c.toNat)

/-- Whether a name may go on with the character. -/
def inName (c : Char) : Bool :=
  startsName c || c.isDigit

/-- The symbol of a word. -/
def ofWord (cs : List Char) : Symbol :=
  let word := String.ofList cs
  if keywords.contains word then .keyword word
  else if reservedWords.contains word then .reserved
  else .name (utf8 cs)

/-- A character between single quotes. -/
def quoteChar (c : Char) : Text :=
  let shown :=
    if c = '\x27' then Text.ofString "\\'"
    else if c = '"' then [Text.byte '"']
    else Text.quoteRune (utf8 [c])
  Text.byte '\x27' :: shown ++ [Text.byte '\x27']

/-- Whether a number starts here: a point needs a digit behind it. -/
def startsNumber : List Char → Bool
  | c :: d :: _ => c.isDigit || (c = '.' && d.isDigit)
  | [c] => c.isDigit
  | [] => false

/-- The symbol at the start of characters of which the first is no blank, and what
follows it. -/
def takeSymbol (place : Place) (cs : List Char) : Except Flaw (Symbol × List Char) :=
  let flawed (flaw : LiteralFlaw) : Flaw :=
    ⟨⟨place.line, place.column + flaw.offset⟩, flaw.words⟩
  match textSort? cs, cs with
  | some sort, _ =>
    match takeText sort cs with
    | .error flaw => .error (flawed flaw)
    | .ok (t, after) => .ok (if sort.isBytes then .bytes t else .text t, after)
  | none, [] => .ok (.fileEnd, [])
  | none, c :: _ =>
    if startsName c then .ok (ofWord (cs.takeWhile inName), cs.dropWhile inName)
    else if startsNumber cs then
      match takeNumber cs with
      | .error flaw => .error (flawed flaw)
      | .ok (.int n, after) => .ok (.int n, after)
      | .ok (.float bits, after) => .ok (.float bits, after)
    else
      match marks.find? fun m => m.toList.isPrefixOf cs with
      | some m => .ok (.mark m, cs.drop m.length)
      | none =>
        if c = '!' then .error ⟨place, "unexpected '!'"⟩
        else .error ⟨place, Text.ofString "unexpected input character " ++ quoteChar c⟩

/-! ## Lines -/

/-- How far reading has come. -/
structure State where
  place : Place
  rest : List Char
  /-- The number of brackets that are open. -/
  depth : Nat
  /-- How far the lines of the open blocks stand in, the innermost first. -/
  indents : List Nat

namespace State

/-- The state behind some characters. -/
def skip (s : State) (cs : List Char) : State :=
  { s with place := s.place.after cs, rest := s.rest.drop cs.length }

/-- Whether a character is a blank inside a line. -/
def isBlank (c : Char) : Bool :=
  c = ' ' || c = '\t'

/-- How far blanks move on: a tabulator up to the next multiple of eight characters,
whatever those before it moved on by. -/
def width (blanks : List Char) : Nat :=
  blanks.zipIdx.foldl (fun n (c, i) => if c = '\t' then n + (8 - i % 8) else n + 1) 0

/-- Whether nothing follows; the character zero ends everything. -/
def atEnd (s : State) : Bool :=
  s.rest.isEmpty || s.rest.head? = some '\x00'

/-- The state behind a comment, if one starts here. -/
def skipComment (s : State) : State :=
  if s.rest.head? = some '#' then
    s.skip (s.rest.takeWhile fun c => c ≠ '\n' && c ≠ '\x00')
  else s

/-- The tokens of a place that no characters belong to. -/
def emptyToken (s : State) (symbol : Symbol) : Token :=
  ⟨symbol, s.place, s.place⟩

/-- The tokens at the end of a script: its last line ends, and all blocks do. -/
def finish (s : State) (lineStart : Bool) : List Token :=
  let outdents := List.replicate (s.indents.length - 1) (s.emptyToken .outdent)
  let lineEnds := if lineStart || outdents.isEmpty then [] else [s.emptyToken .lineEnd]
  lineEnds ++ outdents ++ [s.emptyToken .fileEnd]

/-- A token that says why reading stopped. -/
def stopped (s : State) (flaw : Flaw) : List Token :=
  [s.emptyToken (.flaw flaw.place flaw.words)]

/-- The blocks that a line starts or ends which stands in by `width`, and the tokens
for that. -/
def dents (s : State) (width : Nat) : Except Flaw (State × List Token) :=
  let current := s.indents.head?.getD 0
  if current < width then
    .ok ({ s with indents := width :: s.indents }, [s.emptyToken .indent])
  else
    let ended := s.indents.takeWhile (width < ·)
    let left := s.indents.dropWhile (width < ·)
    if left.head?.getD 0 = width then
      .ok ({ s with indents := left }, ended.map fun _ => s.emptyToken .outdent)
    else .error ⟨s.place, "unindent does not match any outer indentation level"⟩

end State

mutual

/-- The tokens of a script from the start of a line on. Every round takes at least one
character. -/
def scanLine (rounds : Nat) (s : State) : List Token :=
  match rounds with
  | 0 => s.stopped ⟨s.place, []⟩
  | rounds + 1 =>
    let blanks := s.rest.takeWhile State.isBlank
    let here := s.skip blanks
    let behind := here.skipComment
    if behind.atEnd then behind.finish true
    else if behind.rest.head? = some '\n' then scanLine rounds (behind.skip ['\n'])
    else if 0 < here.depth then scan rounds here
    else
      match here.dents (State.width blanks) with
      | .error flaw => here.stopped flaw
      | .ok (s, tokens) => tokens ++ scan rounds s

/-- The tokens of a script from inside a line on. -/
def scan (rounds : Nat) (s : State) : List Token :=
  match rounds with
  | 0 => s.stopped ⟨s.place, []⟩
  | rounds + 1 =>
    let s := (s.skip (s.rest.takeWhile State.isBlank)).skipComment
    if s.atEnd then s.finish false
    else
      match s.rest with
      | [] => s.finish false
      | c :: rest =>
        let behind := s.skip [c]
        if c = '\n' then
          if 0 < s.depth then scanLine rounds behind
          else ⟨.lineEnd, s.place, behind.place⟩ :: scanLine rounds behind
        else if c = '\\' then
          if rest.head? = some '\n' then scan rounds (behind.skip ['\n'])
          else s.stopped ⟨behind.place, "stray backslash in program"⟩
        else
          match takeSymbol s.place s.rest with
          | .error flaw => s.stopped flaw
          | .ok (symbol, after) =>
            let behind := s.skip (s.rest.take (s.rest.length - after.length))
            let token : Token := ⟨symbol, s.place, behind.place⟩
            match symbol with
            | .mark sign =>
              if opens sign then
                token :: scan rounds { behind with depth := behind.depth + 1 }
              else if !closes sign then token :: scan rounds behind
              else if s.depth = 0 then s.stopped ⟨s.place, s!"unexpected '{sign}'"⟩
              else token :: scan rounds { behind with depth := behind.depth - 1 }
            | _ => token :: scan rounds behind

end

/-- The character of a rune; a stray byte counts as the character for what is unknown. -/
def charOf (rune : Text) : Char :=
  Char.ofNat (rune.codePoint?.getD 0xFFFD)

/-- Characters whose lines all end alike. -/
def unifyLineEnds : List Char → List Char
  | '\x0d' :: '\n' :: rest => '\n' :: unifyLineEnds rest
  | '\x0d' :: rest => '\n' :: unifyLineEnds rest
  | c :: rest => c :: unifyLineEnds rest
  | [] => []

/-- The tokens of a script. -/
def ofText (t : Text) : List Token :=
  let cs := unifyLineEnds (t.runes.map charOf)
  scanLine (2 * cs.length + 2) ⟨⟨1, 1⟩, cs, 0, [0]⟩

end Token

end TapeDuel.Script
