import TapeDuel.Config.Numeral
import TapeDuel.Config.Quoted
import TapeDuel.Text.Letter

/-!
# Tokens of configuration files

A configuration file is read as tokens: names, numbers, quoted strings and marks.
Blanks and comments stand between tokens and count for nothing, except that a line
break ends a field, as a comma does, where something could end.
-/

namespace TapeDuel.Config

/-- A token. -/
inductive Token where
  | name (text : Text)
  /-- A number or a run of bytes. -/
  | scalar (value : Scalar)
  /-- A text; `plain` tells that it stands on one line between simple quotes. -/
  | string (text : Text) (plain : Bool)
  /-- A text up to the first expression that is written into it. -/
  | head (text : Text)
  /-- A text between two expressions that are written into it. -/
  | middle (text : Text)
  /-- A text behind the last expression that is written into it. -/
  | tail (text : Text)
  | mark (text : Text)
  /-- A line break that ends something. -/
  | lineEnd
  /-- A remark for other programs. -/
  | remark
deriving DecidableEq, Repr

namespace Token

/-- A mark of one or more characters. -/
def ofMark (s : String) : Token :=
  mark s

/-- The marks that a line may end behind. -/
def lastMarks : List Text :=
  ["\x7d", "]", ")", "?", "...", "_|_"]

/-- Whether a line may end behind the token. -/
def mayEnd : Token → Bool
  | mark text => lastMarks.contains text
  | head _ | middle _ | lineEnd => false
  | _ => true

/-! ## Names -/

/-- Whether a name may start with the rune. -/
def startsName (rune : Text) : Bool :=
  match rune with
  | [b] => (97 ≤ b && b ≤ 122) || (65 ≤ b && b ≤ 90)
  | _ => rune.codePoint?.any isLetterCode

/-- Whether a name may go on with the rune. -/
def inName (rune : Text) : Bool :=
  match rune with
  | [b] => startsName rune || Decimal.isDigit b || b = Text.byte '_' || b = Text.byte '$'
  | _ => startsName rune || rune.codePoint?.any isDigitCode

/-- The runes of a name behind its signs. -/
def word (t : Text) : List Text :=
  (Text.runes (t.takeWhile fun b => 0x80 ≤ b || inName [b])).takeWhile inName

/-- The signs before a name: an underscore and a sign `#`, in this order. -/
def signs (t : Text) : Text :=
  let underscore := (t.take 1).filter (· = Text.byte '_')
  underscore ++ ((t.drop underscore.length).take 1).filter (· = Text.byte '#')

/-- The start of names that files may not use. -/
def reserved : Text :=
  "__"

/-- The name at the start of a text, and what follows it. Signs without a name have no
digit behind them. -/
def takeName (t : Text) : Option (Text × Text) :=
  let signs := signs t
  let rest := t.drop signs.length
  let word := word rest
  let starts := word.head?.any fun rune => startsName rune || rune = [Text.byte '$']
  if signs.getLast? = some (Text.byte '#') && rest.head?.any Decimal.isDigit then none
  else if signs.isEmpty && !starts then none
  else
    let name := signs ++ word.flatten
    if reserved.isPrefixOf name then none else some (name, t.drop name.length)

/-! ## Strings -/

/-- The quote at the start of a text, and what follows it. -/
def takeQuote (t : Text) : Option (Quote × Text) :=
  let hashes := (t.takeWhile (· = Quote.hash)).length
  match t.drop hashes with
  | b :: rest =>
    if b = Text.byte '"' || b = Text.byte '\x27' then some (⟨hashes, b⟩, rest) else none
  | [] => none

/-- The token of a string that is over. -/
def ofString (q : Quote) (plain : Bool) (s : Text) : Token :=
  if q.isText then string s plain else scalar (.bytes s)

/-- The string behind its quote: its token, whether an expression follows that is
written into it, and the rest of the text. -/
def takeString (q : Quote) (t : Text) : Option (Token × Bool × Text) :=
  if [q.char, q.char].isPrefixOf t then
    (q.takeBlock (t.drop 2)).map fun (s, rest) => (ofString q false s, false, rest)
  else
    match q.takeLine (t.length + 1) t with
    | some (s, .closed, rest) => some (ofString q (q.hashes = 0) s, false, rest)
    | some (s, .expression, rest) => if q.isText then some (head s, true, rest) else none
    | none => none

/-- The text behind an expression that is written into a string: its token, whether
another expression follows, and the rest. -/
def resumeString (q : Quote) (t : Text) : Option (Token × Bool × Text) :=
  match q.takeLine (t.length + 1) t with
  | some (s, .closed, rest) => some (tail s, false, rest)
  | some (s, .expression, rest) => some (middle s, true, rest)
  | none => none

/-! ## Marks -/

/-- The marks, of which none stands behind one that it starts with. -/
def marks : List Text :=
  ["...", ">=", "<=", "!=", "==", "&&", "||", "_|_", "\x7b", "\x7d", "[", "]", "(", ")",
    ",", ":", "?", "!", "&", "|", "+", "-", "*", "/", "<", ">", "=", "."]

/-- The mark at the start of a text, and what follows it. -/
def takeMark (t : Text) : Option (Text × Text) :=
  (marks.find? fun m => m.isPrefixOf t).map fun m => (m, t.drop m.length)

/-- What follows the closing bracket of a remark, `depth` brackets deep. -/
def skipRemark (depth : Nat) : Text → Option Text
  | [] => none
  | b :: rest =>
    if b = Text.byte '(' then skipRemark (depth + 1) rest
    else if b = Text.byte ')' then
      match depth with
      | 0 | 1 => some rest
      | depth + 1 => skipRemark depth rest
    else skipRemark depth rest

/-- What follows a remark behind its first sign. -/
def takeRemark (t : Text) : Option Text :=
  match t.drop (word t).flatten.length with
  | b :: rest => if b = Text.byte '(' then skipRemark 1 rest else none
  | [] => none

/-! ## The whole file -/

/-- A string that an expression is being written into, and the brackets open in that
expression. -/
abbrev Frame := Quote × Nat

/-- Whether the text starts a number. -/
def startsNumber (t : Text) : Bool :=
  match t with
  | a :: b :: _ => Decimal.isDigit a || (a = Text.byte '.' && Decimal.isDigit b)
  | [a] => Decimal.isDigit a
  | [] => false

/-- The token at the start of a text that starts with no blank, the strings left open
behind it, and what follows it. -/
def takeToken (frames : List Frame) (t : Text) : Option (Token × List Frame × Text) :=
  if startsNumber t then (Numeral.take t).map fun (v, rest) => (scalar v, frames, rest)
  else if (Text.ofString "_|").isPrefixOf t then
    if (Text.ofString "_|_").isPrefixOf t then some (ofMark "_|_", frames, t.drop 3)
    else none
  else
    match takeQuote t with
    | some (q, rest) =>
      (takeString q rest).map fun (token, goesOn, rest) =>
        (token, if goesOn then (q, 0) :: frames else frames, rest)
    | none =>
      match takeName t with
      | some (text, rest) => some (name text, frames, rest)
      | none =>
        if t.head? = some (Text.byte '@') then
          (takeRemark (t.drop 1)).map fun rest => (remark, frames, rest)
        else
          match takeMark t, frames with
          | none, _ => none
          | some (m, rest), [] => some (mark m, [], rest)
          | some (m, rest), (q, depth) :: outer =>
            if m = Text.ofString "(" then some (mark m, (q, depth + 1) :: outer, rest)
            else if m ≠ Text.ofString ")" then some (mark m, frames, rest)
            else if 0 < depth then some (mark m, (q, depth - 1) :: outer, rest)
            else
              (resumeString q rest).map fun (token, goesOn, rest) =>
                (token, if goesOn then (q, 0) :: outer else outer, rest)

/-- Whether a byte is a blank inside a line. -/
def isBlankByte (b : UInt8) : Bool :=
  b = Text.byte ' ' || b = Text.byte '\t' || b = Text.byte '\r'

/-- Whether what follows some blanks and line breaks keeps a line from ending. -/
def goesOn (t : Text) : Bool :=
  match t.dropWhile fun b => isBlankByte b || b = Text.byte '\n' with
  | b :: _ => b = Text.byte ',' || b = Text.byte ':'
  | [] => false

/-- The tokens of a text; `open_` tells that a line break here ends something. Every
round takes at least one byte. -/
def scan (rounds : Nat) (frames : List Frame) (open_ : Bool) (t : Text) :
    Option (List Token) :=
  match rounds, t with
  | _, [] => if frames.isEmpty then some (if open_ then [lineEnd] else []) else none
  | 0, _ => none
  | rounds + 1, b :: rest =>
    if b = Text.byte '\n' then
      if open_ && !goesOn rest then (scan rounds frames false rest).map (lineEnd :: ·)
      else scan rounds frames false rest
    else if isBlankByte b then scan rounds frames open_ rest
    else if (Text.ofString "//").isPrefixOf t then
      let behind := scan rounds frames false (rest.dropWhile (· ≠ Text.byte '\n'))
      if open_ then behind.map (lineEnd :: ·) else behind
    else
      match takeToken frames t with
      | none => none
      | some (token, frames, after) =>
          (scan rounds frames token.mayEnd after).map (token :: ·)

/-- Whether every byte belongs to a character that may stand in a file. -/
def isReadable (t : Text) : Bool :=
  t.runes.all fun rune =>
    match rune.codePoint? with
    | none => false
    | some code => code ≠ 0 && code ≠ 0xFEFF

/-- A text without the mark that may stand before everything else. -/
def dropMark (t : Text) : Text :=
  if [0xEF, 0xBB, 0xBF].isPrefixOf t then t.drop 3 else t

/-- The tokens of a file. -/
def ofText (t : Text) : Option (List Token) :=
  let t := dropMark t
  if isReadable t then scan t.length [] false t else none

end Token

end TapeDuel.Config
