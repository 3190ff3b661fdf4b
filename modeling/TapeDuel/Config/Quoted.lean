import TapeDuel.Number.Floating
import TapeDuel.Text.Quoted

/-!
# Quoted strings of configuration files

A string stands between quotes on one line, or between threefold quotes on lines of
its own. Signs `#` around the quotes make backslashes plain, unless as many signs
follow them. Behind a backslash and an opening bracket an expression is written into
the string.
-/

namespace TapeDuel.Config

/-- How a string is quoted. -/
structure Quote where
  /-- The number of signs `#` around the quotes. -/
  hashes : Nat
  /-- The quote itself: double for texts, single for bytes. -/
  char : UInt8
deriving DecidableEq, Repr

namespace Quote

/-- The sign that makes backslashes plain. -/
def hash : UInt8 :=
  Text.byte '#'

/-- Whether the string is a text. -/
def isText (q : Quote) : Bool :=
  q.char = Text.byte '"'

/-- The signs of a quote. -/
def signs (q : Quote) : Text :=
  List.replicate q.hashes hash

/-- The end of a string on one line. -/
def closing (q : Quote) : Text :=
  q.char :: q.signs

/-- The end of a string on several lines. -/
def blockClosing (q : Quote) : Text :=
  q.char :: q.char :: q.closing

/-- What an escape starts with. -/
def escape (q : Quote) : Text :=
  Text.byte '\\' :: q.signs

/-- What follows a text at the start of another. -/
def after? (part t : Text) : Option Text :=
  if part.isPrefixOf t then some (t.drop part.length) else none

/-! ## Escapes -/

/-- The byte that a letter stands for behind a backslash. -/
def escaped? (b : UInt8) : Option UInt8 :=
  if b = Text.byte 'a' then some 7
  else if b = Text.byte 'b' then some 8
  else if b = Text.byte 'f' then some 12
  else if b = Text.byte 'n' then some 10
  else if b = Text.byte 'r' then some 13
  else if b = Text.byte 't' then some 9
  else if b = Text.byte 'v' then some 11
  else if b = Text.byte '\\' || b = Text.byte '/' then some b
  else none

/-- The number in `width` digits of a base at the start of a text, and what follows
it. -/
def takeCode (base width : Nat) (t : Text) : Option (Nat × Text) :=
  if t.length < width then none
  else
    ((t.take width).mapM (Number.digitValue? base)).map fun digits =>
      (digits.foldl (fun n d => base * n + d) 0, t.drop width)

/-- Whether a code point is half of a pair. -/
def isHigh (code : Nat) : Bool :=
  0xD800 ≤ code && code < 0xDC00

/-- Whether a code point is the other half of a pair. -/
def isLow (code : Nat) : Bool :=
  0xDC00 ≤ code && code < 0xE000

/-- The code point behind the letter of an escape, and what follows it. -/
def takeUnit (letter : UInt8) (t : Text) : Option (Nat × Text) :=
  if letter = Text.byte 'u' then takeCode 16 4 t
  else if letter = Text.byte 'U' then takeCode 16 8 t
  else none

/-- The character whose code point stands behind the letter of an escape. A first half
needs the escape of a second half behind it. -/
def takeCharacter (q : Quote) (letter : UInt8) (t : Text) : Option (Text × Text) := do
  let (code, rest) ← takeUnit letter t
  if isHigh code then
    match ← after? q.escape rest with
    | letter :: rest =>
      let (low, rest) ← takeUnit letter rest
      if isLow low then
        some (Text.ofCodePoint (0x10000 + (code - 0xD800) * 1024 + (low - 0xDC00)), rest)
      else none
    | [] => none
  else if isLow code || 0x10FFFF < code then none
  else some (Text.ofCodePoint code, rest)

/-- What an escape stands for, given what follows its backslash, and the text behind
it. Bytes can also be given by their values. -/
def takeEscape (q : Quote) (t : Text) : Option (Text × Text) :=
  match t with
  | [] => none
  | b :: rest =>
    if b = q.char then some ([b], rest)
    else if b = Text.byte 'u' || b = Text.byte 'U' then q.takeCharacter b rest
    else if !q.isText && b = Text.byte 'x' then
      (takeCode 16 2 rest).map fun (code, rest) => ([UInt8.ofNat code], rest)
    else if !q.isText && (Number.digitValue? 8 b).isSome then
      (takeCode 8 3 t).bind fun (code, rest) =>
        if code < 256 then some ([UInt8.ofNat code], rest) else none
    else (escaped? b).map fun e => ([e], rest)

/-! ## Strings on one line -/

/-- Whether a string is over, or an expression is written into it. -/
inductive Stop where
  | closed
  | expression
deriving DecidableEq, Repr

/-- The rest of a string, how it stops, and what follows. Every round takes at least
one byte, so a text of `rounds` bytes is read to its end. -/
def takeLine (q : Quote) (rounds : Nat) (t : Text) : Option (Text × Stop × Text) :=
  match rounds, t with
  | 0, _ | _, [] => none
  | rounds + 1, b :: rest =>
    match after? q.closing t, after? q.escape t with
    | some after, _ => some ([], .closed, after)
    | none, some after =>
      if after.head? = some (Text.byte '(') then some ([], .expression, after.drop 1)
      else
        match q.takeEscape after with
        | none => none
        | some (character, after) =>
          (q.takeLine rounds after).map fun (s, stop, end_) =>
            (character ++ s, stop, end_)
    | none, none =>
      if b = Text.byte '\n' || b = Text.byte '\r' then none
      else (q.takeLine rounds rest).map fun (s, stop, end_) => (b :: s, stop, end_)

/-! ## Strings on several lines -/

/-- A line of a string while it is read: the bytes that stand there as they are, and
what was escaped. -/
abbrev Piece := UInt8 ⊕ Text

/-- The pieces up to the threefold quote, and what follows it. -/
def takePieces (q : Quote) (rounds : Nat) (t : Text) : Option (List Piece × Text) :=
  match rounds, t with
  | 0, _ | _, [] => none
  | rounds + 1, b :: rest =>
    match after? q.blockClosing t, after? q.escape t with
    | some after, _ => some ([], after)
    | none, some after =>
      match q.takeEscape after with
      | none => none
      | some (character, after) =>
        (q.takePieces rounds after).map fun (ps, end_) => (.inr character :: ps, end_)
    | none, none => (q.takePieces rounds rest).map fun (ps, end_) => (.inl b :: ps, end_)

/-- Pieces cut at the line breaks that stand there as they are. -/
def splitLines : List Piece → List (List Piece)
  | [] => [[]]
  | p :: rest =>
    match p, splitLines rest with
    | .inl b, lines =>
      if b = Text.byte '\n' then [] :: lines
      else
        match lines with
        | [] => [[p]]
        | line :: more => (p :: line) :: more
    | .inr _, [] => [[p]]
    | .inr _, line :: more => (p :: line) :: more

/-- The text of some pieces. -/
def textOf (pieces : List Piece) : Text :=
  pieces.flatMap fun p =>
    match p with
    | .inl b => [b]
    | .inr t => t

/-- A line without the blanks that stand before every line. -/
def outdent? (indent line : List Piece) : Option Text :=
  if line.isEmpty then some []
  else if indent.isPrefixOf line then some (textOf (line.drop indent.length))
  else none

/-- The rest of a string on several lines, and what follows it. The blanks before its
end stand before each of its lines and do not belong to it. -/
def takeBlock (q : Quote) (t : Text) : Option (Text × Text) := do
  let t := t.filter (· ≠ Text.byte '\r')
  let body ← after? [Text.byte '\n'] t
  let (pieces, rest) ← q.takePieces (body.length + 1) body
  let lines := splitLines pieces
  let indent := lines.getLast?.getD []
  if indent.all fun p => p = .inl (Text.byte ' ') || p = .inl (Text.byte '\t') then
    let lines ← lines.dropLast.mapM (outdent? indent)
    return (Text.intercalate [Text.byte '\n'] lines, rest)
  else none

end Quote

end TapeDuel.Config
