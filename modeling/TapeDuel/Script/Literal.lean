import TapeDuel.Number.Floating
import TapeDuel.Text.Quoted

/-!
# Literals of scripts

A script holds texts between single, double or threefold quotes, and numbers. Whatever
is wrong with a literal is told in words, with the number of characters that were read
until then.
-/

namespace TapeDuel.Script

/-- What is wrong with a literal, and how far behind its start. -/
structure LiteralFlaw where
  offset : Nat
  words : Text

/-- The UTF-8 bytes of characters. -/
def utf8 (cs : List Char) : Text :=
  Text.ofString (String.ofList cs)

/-! ## Escapes -/

/-- What may follow a backslash for one byte, and that byte. -/
def plainEscapes : List (Char × Nat) :=
  [('a', 7), ('b', 8), ('f', 12), ('n', 10), ('r', 13), ('t', 9), ('v', 11),
    ('\\', 92), ('\x27', 39), ('"', 34)]

/-- A number in hexadecimal capitals, with at least four digits. -/
def codeName (n : Nat) : Text :=
  let width := max 4 (n.log2 / 4 + 1)
  (Text.hexadecimal width n).map fun b => if 97 ≤ b then b - 32 else b

/-- A number in octal digits. -/
def octal (n : Nat) : Text :=
  Text.ofString (String.ofList (Nat.toDigits 8 n))

/-- The byte that an escape of three octal digits gives. -/
def octalByte (isBytes : Bool) (n : Nat) : Except Text Text :=
  if !isBytes && 127 < n then
    .error (Text.ofString "non-ASCII octal escape \\" ++ octal n
      ++ Text.ofString " (use \\u"
      ++ codeName n ++ Text.ofString " for the UTF-8 encoding of U+" ++ codeName n
        ++ Text.ofString ")")
  else if 256 ≤ n then .error (Text.ofString "invalid escape sequence \\" ++ octal n)
  else .ok [UInt8.ofNat n]

/-- The bytes that an escape of a code point gives; `written` is the escape itself. -/
def codePointBytes (isBytes : Bool) (letter : UInt8) (written : Text) (n : Nat) :
    Except Text Text :=
  if letter = Text.byte 'x' then
    if !isBytes && 127 < n then
      .error (Text.ofString "non-ASCII hex escape " ++ written
        ++ Text.ofString " (use \\u" ++ codeName n
        ++ Text.ofString " for the UTF-8 encoding of U+" ++ codeName n
          ++ Text.ofString ")")
    else .ok [UInt8.ofNat n]
  else if 0x10FFFF < n then
    .error (Text.ofString "code point out of range: " ++ written
      ++ Text.ofString " (max \\U"
      ++ Text.hexadecimal 8 n ++ Text.ofString ")")
  else if 0xD800 ≤ n && n < 0xE000 then
    .error (Text.ofString "invalid Unicode code point U+" ++ codeName n)
  else .ok (Text.ofCodePoint n)

/-- The number of hexadecimal digits behind the letter of an escape. -/
def escapeWidth? (letter : UInt8) : Option Nat :=
  if letter = Text.byte 'x' then some 2
  else if letter = Text.byte 'u' then some 4
  else if letter = Text.byte 'U' then some 8
  else none

/-- What the escape at the start of a text stands for, and what follows it. -/
def takeEscape (isBytes : Bool) (t : Text) : Except Text (Text × Text) :=
  match t with
  | backslash :: b :: rest =>
    if b = Text.byte '\n' then .ok ([], rest)
    else
      match plainEscapes.find? fun (c, _) => Text.byte c = b, escapeWidth? b with
      | some (_, code), _ => .ok ([UInt8.ofNat code], rest)
      | none, some width =>
        let written := t.take (width + 2)
        if written.length < width + 2 then
          .error (Text.ofString "truncated escape sequence " ++ backslash :: b :: rest)
        else
          match (written.drop 2).mapM (Number.digitValue? 16) with
          | none => .error (Text.ofString "invalid escape sequence " ++ written)
          | some digits =>
            (codePointBytes isBytes b written
              (digits.foldl (fun n d => 16 * n + d) 0)).map
              fun bytes => (bytes, t.drop (width + 2))
      | none, none =>
        let digits := ((b :: rest).take 3).takeWhile fun d =>
            (Number.digitValue? 8 d).isSome
        if digits.isEmpty then
          .error (Text.ofString "invalid escape sequence \\" ++ Text.ofCodePoint b.toNat)
        else
          let n :=
            (digits.filterMap (Number.digitValue? 8)).foldl (fun n d => 8 * n + d) 0
          (octalByte isBytes n).map fun bytes => (bytes, (b :: rest).drop digits.length)
  | _ => .error (Text.ofString "truncated escape sequence \\")

/-- A text with its escapes replaced. Every round takes at least one byte. -/
def unescape (isBytes : Bool) (rounds : Nat) (t : Text) : Except Text Text :=
  match rounds, t with
  | 0, _ | _, [] => .ok []
  | rounds + 1, b :: rest =>
    if b = Text.byte '\\' then
      match takeEscape isBytes (b :: rest) with
      | .error words => .error words
      | .ok (bytes, after) => (unescape isBytes rounds after).map (bytes ++ ·)
    else (unescape isBytes rounds rest).map (b :: ·)

/-! ## Texts -/

/-- What a text is written with. -/
structure TextSort where
  /-- Backslashes are plain. -/
  isRaw : Bool
  isBytes : Bool
  /-- The letters before the quote. -/
  letters : Nat

/-- The sort of the text that starts here, if one does. -/
def textSort? : List Char → Option TextSort
  | 'r' :: 'b' :: c :: _ =>
    if c = '"' || c = '\x27' then some ⟨true, true, 2⟩ else none
  | c :: d :: _ =>
    if c = '"' || c = '\x27' then some ⟨false, false, 0⟩
    else if d = '"' || d = '\x27' then
      if c = 'r' then some ⟨true, false, 1⟩
      else if c = 'b' then some ⟨false, true, 1⟩
      else none
    else none
  | [c] => if c = '"' || c = '\x27' then some ⟨false, false, 0⟩ else none
  | [] => none

/-- Why a text does not end. -/
def unended (what : String) : Text :=
  s!"unexpected {what} in string"

/-- The characters of a text up to its quote, and what follows it. -/
def takeShort (quote : Char) : List Char → Except Text (List Char × List Char)
  | [] => .error (unended "EOF")
  | c :: rest =>
    if c = quote then .ok ([], rest)
    else if c = '\n' then .error (unended "newline")
    else if c = '\\' then
      match rest with
      | [] => .error (unended "EOF")
      | d :: rest => (takeShort quote rest).map fun (cs, after) => (c :: d :: cs, after)
    else (takeShort quote rest).map fun (cs, after) => (c :: cs, after)

/-- The characters of a text up to three quotes in a row, `seen` of which were read
already, and what follows them. -/
def takeLong (quote : Char) (seen : Nat) :
    List Char → Except Text (List Char × List Char)
  | [] => .error (unended "EOF")
  | c :: rest =>
    if c = quote then
      if seen = 2 then .ok ([c], rest)
      else (takeLong quote (seen + 1) rest).map fun (cs, after) => (c :: cs, after)
    else if c = '\\' then
      match rest with
      | [] => .error (unended "EOF")
      | d :: rest => (takeLong quote 0 rest).map fun (cs, after) => (c :: d :: cs, after)
    else (takeLong quote 0 rest).map fun (cs, after) => (c :: cs, after)

/-- The characters between the quotes at the start, and what follows them. -/
def takeQuoted : List Char → Except Text (List Char × List Char)
  | q :: r :: s :: rest =>
    if r = q && s = q then
      (takeLong q 0 rest).map fun (cs, after) => (cs.take (cs.length - 3), after)
    else takeShort q (r :: s :: rest)
  | q :: rest => takeShort q rest
  | [] => .error (unended "EOF")

/-- The text at the start of characters, and what follows it. -/
def takeText (sort : TextSort) (cs : List Char) :
    Except LiteralFlaw (Text × List Char) :=
  match takeQuoted (cs.drop sort.letters) with
  | .error words => .error ⟨0, words⟩
  | .ok (body, after) =>
    let bytes := utf8 body
    if sort.isRaw then .ok (bytes, after)
    else
      match unescape sort.isBytes bytes.length bytes with
      | .error words => .error ⟨sort.letters, words⟩
      | .ok t => .ok (t, after)

/-! ## Numbers -/

/-- A number of a script. -/
inductive Numeral where
  | int (value : Nat)
  | float (bits : Nat)

/-- The value of a character as a digit of a base. -/
def digit? (base : Nat) (c : Char) : Option Nat :=
  if c.val < 128 then Number.digitValue? base (Text.byte c) else none

/-- Whether a character is a digit of a base. -/
def isDigitOf (base : Nat) (c : Char) : Bool :=
  (digit? base c).isSome

/-- The number that digits of a base spell; none if one of them is no digit of it. -/
def spelled? (base : Nat) (digits : List Char) : Option Nat :=
  (digits.mapM (digit? base)).map fun ds => ds.foldl (fun n d => base * n + d) 0

/-- The whole number of a base behind the mark of that base. Of the bases that are
powers of two only the largest has numbers of any size. -/
def takeBased (base : Nat) (name : String) (offset : Nat) (cs : List Char) :
    Except LiteralFlaw (Numeral × List Char) :=
  let digits := cs.takeWhile (isDigitOf base)
  match digits, spelled? base digits with
  | _ :: _, some n =>
    if base = 16 || n < 0x8000000000000000 then .ok (.int n, cs.drop digits.length)
    else .error ⟨0, "invalid int literal"⟩
  | _, _ => .error ⟨offset, s!"invalid {name} literal"⟩

/-- The exponent at the start of characters with its letter and its sign, if there is
one. -/
def exponentPart (cs : List Char) : List Char × Bool :=
  match cs with
  | e :: rest =>
    if e = 'e' || e = 'E' then
      match rest with
      | s :: digits =>
        if s = '+' || s = '-' then
          let run := digits.takeWhile (isDigitOf 10)
          (e :: s :: run, !run.isEmpty)
        else (e :: rest.takeWhile (isDigitOf 10), true)
      | [] => ([e], true)
    else ([], true)
  | [] => ([], true)

/-- The decimal number at the start of characters, and what follows it. -/
def takeDecimal (cs : List Char) : Except LiteralFlaw (Numeral × List Char) :=
  let whole := cs.takeWhile (isDigitOf 10)
  let rest := cs.drop whole.length
  let fraction :=
    match rest with
    | '.' :: more => '.' :: more.takeWhile (isDigitOf 10)
    | _ => []
  let (exponent, complete) := exponentPart (rest.drop fraction.length)
  let all := whole ++ fraction ++ exponent
  let after := cs.drop all.length
  if !complete then .error ⟨all.length, "invalid float literal"⟩
  else if fraction.isEmpty && exponent.isEmpty then
    let base := if whole.head? = some '0' then 8 else 10
    match spelled? base whole with
    | some n => .ok (.int n, after)
    | none => .error ⟨0, "invalid int literal"⟩
  else
    match Number.readFloat .double (utf8 all) with
    | .ok bits => .ok (.float bits, after)
    | .error _ => .error ⟨all.length, "invalid float literal"⟩

/-- The number at the start of characters, and what follows it. -/
def takeNumber (cs : List Char) : Except LiteralFlaw (Numeral × List Char) :=
  match cs with
  | '0' :: c :: rest =>
    if c = 'x' || c = 'X' then takeBased 16 "hex" 0 rest
    else if c = 'o' || c = 'O' then takeBased 8 "octal" 2 rest
    else if c = 'b' || c = 'B' then takeBased 2 "binary" 2 rest
    else takeDecimal cs
  | _ => takeDecimal cs

end TapeDuel.Script
