import TapeDuel.Net.Domain.Label
import TapeDuel.Net.Domain.Punycode

/-!
# Domain names in ASCII

A domain name may be written in any script, but it is looked up in ASCII. It is mapped
and composed, each of its labels is checked, and the labels that are not ASCII are
written in Punycode.
-/

namespace TapeDuel.Net.Domain

/-- What stands before labels that are written in Punycode. -/
def punycodeMark : List Nat :=
  (Text.ofString "xn--").map UInt8.toNat

/-- The parts of a list between the numbers `cut`. -/
def splitAt (cut : Nat) : List Nat → List (List Nat)
  | [] => [[]]
  | c :: rest =>
    match splitAt cut rest with
    | part :: parts => if c = cut then [] :: part :: parts else (c :: part) :: parts
    | [] => [[c]]

/-- A label as it is meant, if it follows the rules: one in Punycode is read, and it
must be one that mapping and composing leave as it is. -/
def readLabel? (label : List Nat) : Option (List Nat) :=
  if punycodeMark.isPrefixOf label then
    match Punycode.decode? (label.drop punycodeMark.length) with
    | none => none
    | some meant =>
      if normal meant = meant && meant.all isValid && labelFits meant then some meant
      else none
  else if labelFits label then some label
  else none

/-- A label in ASCII. -/
def writeLabel (label : List Nat) : Text :=
  if label.all (· < Punycode.firstCode) then label.map UInt8.ofNat
  else punycodeMark.map UInt8.ofNat ++ Punycode.encode label

/-- A domain name in ASCII; none if it breaks a rule. -/
def toAscii? (name : Text) : Option Text := do
  let codes ← name.runes.mapM Text.codePoint?
  let labels ← (splitAt (Text.byte '.').toNat (normal (← mapped? codes))).mapM readLabel?
  if codes.any turnsName || labels.any (fun label => label.any turnsName) then
    if !labels.all keepsDirection then none
  return Text.intercalate "." (labels.map writeLabel)

/-- The name under which a host is looked up: the name itself if it is ASCII, or if it
cannot be written so. -/
def lookupName (host : Text) : Text :=
  if host.all (· < 0x80) then host else (toAscii? host).getD host

end TapeDuel.Net.Domain
