import TapeDuel.Text.Printable

/-!
# Quoted texts

A quoted text stands between double quotes on one line and shows every byte it holds:
printable characters as they are, all others by an escape. A byte that belongs to no
character is written by its value.
-/

namespace TapeDuel.Text

/-- The code point that a well-formed rune encodes; none for a stray byte. -/
def codePoint? : Text → Option Nat
  | [b] => if b < 0x80 then some b.toNat else none
  | [b, c] => some ((b.toNat - 0xC0) * 64 + (c.toNat - 0x80))
  | [b, c, d] =>
      some (((b.toNat - 0xE0) * 64 + (c.toNat - 0x80)) * 64 + (d.toNat - 0x80))
  | [b, c, d, e] =>
    some ((((b.toNat - 0xF0) * 64 + (c.toNat - 0x80)) * 64 + (d.toNat - 0x80)) * 64
      + (e.toNat - 0x80))
  | _ => none

/-- The UTF-8 bytes of a code point. -/
def ofCodePoint (code : Nat) : Text :=
  if code < 0x80 then [UInt8.ofNat code]
  else if code < 0x800 then [UInt8.ofNat (0xC0 + code / 64),
    UInt8.ofNat (0x80 + code % 64)]
  else if code < 0x10000 then
    [UInt8.ofNat (0xE0 + code / 4096), UInt8.ofNat (0x80 + code / 64 % 64),
      UInt8.ofNat (0x80 + code % 64)]
  else
    [UInt8.ofNat (0xF0 + code / 262144), UInt8.ofNat (0x80 + code / 4096 % 64),
      UInt8.ofNat (0x80 + code / 64 % 64), UInt8.ofNat (0x80 + code % 64)]

/-- The lower-case hexadecimal digit of a number below sixteen. -/
def hexDigit (n : Nat) : UInt8 :=
  UInt8.ofNat (if n < 10 then 48 + n else 87 + n)

/-- The last `digits` hexadecimal digits of a number. -/
def hexadecimal : Nat → Nat → Text
  | 0, _ => []
  | digits + 1, n => hexadecimal digits (n / 16) ++ [hexDigit (n % 16)]

/-- The letter that stands for a control character after a backslash. -/
def controlLetter? (code : Nat) : Option Char :=
  match code with
  | 7 => some 'a'
  | 8 => some 'b'
  | 9 => some 't'
  | 10 => some 'n'
  | 11 => some 'v'
  | 12 => some 'f'
  | 13 => some 'r'
  | _ => none

/-- One rune inside a quoted text. -/
def quoteRune (rune : Text) : Text :=
  match codePoint? rune with
  | none => ofString "\\x" ++ (rune.map fun b => hexadecimal 2 b.toNat).flatten
  | some code =>
    if code = 0x22 || code = 0x5C then byte '\\' :: rune
    else if isPrintable code then rune
    else
      match controlLetter? code with
      | some letter => [byte '\\', byte letter]
      | none =>
        if code < 0x20 || code = 0x7F then ofString "\\x" ++ hexadecimal 2 code
        else if code < 0x10000 then ofString "\\u" ++ hexadecimal 4 code
        else ofString "\\U" ++ hexadecimal 8 code

/-- A text between double quotes. -/
def quote (t : Text) : Text :=
  byte '"' :: (t.runes.map quoteRune).flatten ++ [byte '"']

end TapeDuel.Text
