import TapeDuel.Number.Floating
import TapeDuel.Text.Quoted

/-!
# Escapes in web addresses

A byte that may not stand in some part of a web address is written as a percent sign
and two hexadecimal digits. Which bytes may stand bare depends on the part.
-/

namespace TapeDuel.Net

/-- A part of a web address. -/
inductive UrlPart where
  | path
  | host
  | zone
  | user
  | fragment
deriving DecidableEq, Repr

namespace UrlPart

/-- Whether a byte is a letter or a digit. -/
def isWord (b : UInt8) : Bool :=
  (97 ≤ b && b ≤ 122) || (65 ≤ b && b ≤ 90) || Decimal.isDigit b

/-- The bytes that may stand bare in a part, letters and digits aside. -/
def bare : UrlPart → Text
  | path => "-_.~$&+,/:;=@"
  | host | zone => "-_.~!$&'()*+,;=:[]<>\""
  | user => "-_.~$&+,;="
  | fragment => "-_.~$&+,/:;=?@!()*"

/-- Whether a byte has to be escaped in a part. -/
def mustEscape (part : UrlPart) (b : UInt8) : Bool :=
  !(isWord b || part.bare.contains b)

/-- Escapes one byte. -/
def escapeByte (b : UInt8) : Text :=
  let digit (n : UInt8) : UInt8 := if n < 10 then 48 + n else 55 + n
  [Text.byte '%', digit (b / 16), digit (b % 16)]

/-- Escapes what has to be escaped. -/
def escape (part : UrlPart) (t : Text) : Text :=
  t.flatMap fun b => if part.mustEscape b then escapeByte b else [b]

/-- The words of an escape that means nothing. -/
def badEscape (t : Text) : Text :=
  Text.ofString "invalid URL escape " ++ Text.quote (t.take 3)

/-- Whether an escape of a byte is allowed in a part. In a host it may only stand for
bytes that are no characters by themselves, and for the percent sign. -/
def mayEscape (part : UrlPart) (b : UInt8) : Bool :=
  match part with
  | host => 0x80 ≤ b || b = Text.byte '%'
  | zone => b = Text.byte '%' || b = Text.byte ' ' || !host.mustEscape b
  | _ => true

/-- Whether a byte may stand in a part that is being read. -/
def mayStand (part : UrlPart) (b : UInt8) : Bool :=
  match part with
  | host | zone => 0x80 ≤ b || !part.mustEscape b
  | _ => true

/-- Undoes the escapes of a part; the error is in words. -/
def unescape (part : UrlPart) (t : Text) : Except Text Text :=
  match t with
  | [] => .ok []
  | b :: rest =>
    if b = Text.byte '%' then
      match rest with
      | h :: l :: more =>
        match Number.digitValue? 16 h, Number.digitValue? 16 l with
        | some x, some y =>
          let byte := UInt8.ofNat (16 * x + y)
          if part.mayEscape byte then (unescape part more).map (byte :: ·)
          else .error (badEscape (b :: rest))
        | _, _ => .error (badEscape (b :: rest))
      | _ => .error (badEscape (b :: rest))
    else if part.mayStand b then (unescape part rest).map (b :: ·)
    else .error (Text.ofString "invalid character " ++ Text.quote [b]
      ++ Text.ofString " in host name")

/-- Whether a part that was written down can be left as it is. -/
def isEscaped (part : UrlPart) (t : Text) : Bool :=
  t.all fun b => (Text.ofString "!$&'()*+,;=:@[]%").contains b || !part.mustEscape b

/-- A part in its escaped form: as it was written down, if it can stay so. -/
def normal (part : UrlPart) (t : Text) : Text :=
  if part.isEscaped t then t
  else
    match part.unescape t with
    | .ok plain => part.escape plain
    | .error _ => t

end UrlPart

end TapeDuel.Net
