import TapeDuel.Number.Floating
import TapeDuel.Text.Quoted

/-!
# Network addresses

An address is a host, perhaps with a port behind it; a host may be a number of one of
two kinds. What lies on this machine or in a private network is local.
-/

namespace TapeDuel.Net

/-- A host given as a number. -/
inductive Ip where
  /-- Four octets. -/
  | v4 (octets : List Nat)
  /-- Eight groups of sixteen bits, and the zone they are meant in; empty for none. -/
  | v6 (groups : List Nat) (zone : Text)
deriving DecidableEq, Repr

namespace Ip

/-- Why a text is no number of a host, and the rest of the text at which this shows. -/
structure Flaw where
  words : String
  rest : Text := []
deriving DecidableEq, Repr

/-- A flaw in words, of a text as it was given. -/
def Flaw.message (flaw : Flaw) (whole : Text) : Text :=
  Text.ofString "ParseAddr(" ++ whole.quote ++ Text.ofString s!"): {flaw.words}"
    ++ if flaw.rest.isEmpty then []
      else Text.ofString " (at " ++ flaw.rest.quote ++ Text.ofString ")"

/-! ## Reading -/

/-- The octets of a text behind those that are `done`; `octet` is the one that is
being read. -/
def readOctets (done : List Nat) (octet : Option Nat) : Text → Except Flaw (List Nat)
  | [] =>
    if done.length < 3 then .error ⟨"IPv4 address too short", []⟩
    else .ok (done ++ [octet.getD 0])
  | b :: rest =>
    if Decimal.isDigit b then
      let n := 10 * octet.getD 0 + (b.toNat - 48)
      if octet = some 0 then .error ⟨"IPv4 field has octet with leading zero", []⟩
      else if 255 < n then .error ⟨"IPv4 field has value >255", []⟩
      else readOctets done (some n) rest
    else if b = Text.byte '.' then
      match octet with
      | none => .error ⟨"IPv4 field must have at least one digit", b :: rest⟩
      | some n =>
        if rest.isEmpty then
          .error ⟨"IPv4 field must have at least one digit", b :: rest⟩
        else if done.length = 3 then .error ⟨"IPv4 address too long", []⟩
        else readOctets (done ++ [n]) none rest
    else .error ⟨"unexpected character", b :: rest⟩

/-- The groups of an address, with zeros for those that were left out behind the first
`gap`. -/
def fillGap (groups : List Nat) (gap : Option Nat) : Except Flaw (List Nat) :=
  match gap with
  | none =>
      if groups.length < 8 then .error ⟨"address string too short", []⟩ else .ok groups
  | some n =>
    if groups.length < 8 then
      .ok (groups.take n ++ List.replicate (8 - groups.length) 0 ++ groups.drop n)
    else .error ⟨"the :: must expand to at least one field of zeros", []⟩

/-- Whether a byte is a hexadecimal digit. -/
def isHex (b : UInt8) : Bool :=
  (Number.digitValue? 16 b).isSome

/-- The value of hexadecimal digits. -/
def hexValue (digits : Text) : Nat :=
  digits.foldl (fun n b => 16 * n + (Number.digitValue? 16 b).getD 0) 0

/-- Two octets as one group. -/
def pair (high low : Nat) : Nat :=
  256 * high + low

/-- The groups of a text behind those that are `done`, for which there is `room`;
`gap` tells how many stand before the groups that were left out. The last two groups
may be written as octets. -/
def readGroups (room : Nat) (done : List Nat) (gap : Option Nat) (t : Text) :
    Except Flaw (List Nat) :=
  match room with
  | 0 =>
      if t.isEmpty then fillGap done gap
      else .error ⟨"trailing garbage after address", t⟩
  | room + 1 =>
    let digits := t.takeWhile isHex
    let group := hexValue digits
    if 4 < digits.length then .error ⟨"each group must have 4 or less digits", t⟩
    else if digits.isEmpty then
      .error ⟨"each colon-separated field must have at least one digit", t⟩
    else
      match t.dropWhile isHex with
      | [] => fillGap (done ++ [group]) gap
      | b :: rest =>
        if b = Text.byte '.' then
          if gap.isNone && done.length ≠ 6 then
            .error
              ⟨"embedded IPv4 address must replace the final 2 fields of the address", t⟩
          else if room = 0 then
            .error
              ⟨"too many hex fields to fit an embedded IPv4 at the end of the address",
                t⟩
          else
            match readOctets [] none t with
            | .ok [a, b, c, d] => fillGap (done ++ [pair a b, pair c d]) gap
            | .ok _ => .error ⟨"IPv4 address too short", []⟩
            | .error flaw => .error flaw
        else if b ≠ Text.byte ':' then
          .error ⟨"unexpected character, want colon", b :: rest⟩
        else
          match rest with
          | [] => .error ⟨"colon must be followed by more characters", [b]⟩
          | c :: more =>
            if c ≠ Text.byte ':' then readGroups room (done ++ [group]) gap rest
            else if gap.isSome then .error ⟨"multiple :: in address", rest⟩
            else if more.isEmpty then fillGap (done ++ [group]) (some (done.length + 1))
            else readGroups room (done ++ [group]) (some (done.length + 1)) more

/-- The host that a text with colons spells, without its zone. -/
def readV6 (t : Text) : Except Flaw (List Nat) :=
  if (Text.ofString "::").isPrefixOf t then
    if t.length = 2 then .ok (List.replicate 8 0)
    else readGroups 8 [] (some 0) (t.drop 2)
  else readGroups 8 [] none t

/-- The host that a text spells. Which kind it is, the first mark in it tells. -/
def read (t : Text) : Except Flaw Ip :=
  match t.find? fun b => b = Text.byte '.' || b = Text.byte ':' || b = Text.byte '%' with
  | none => .error ⟨"unable to parse IP", []⟩
  | some mark =>
    if mark = Text.byte '.' then (readOctets [] none t).map .v4
    else if mark = Text.byte '%' then .error ⟨"missing IPv6 address", []⟩
    else
      match t.dropWhile (· ≠ Text.byte '%') with
      | [] => (readV6 t).map fun groups => .v6 groups []
      | _ :: zone =>
        if zone.isEmpty then .error ⟨"zone must be a non-empty string", []⟩
        else (readV6 (t.takeWhile (· ≠ Text.byte '%'))).map fun groups => .v6 groups zone

/-! ## Local hosts -/

/-- The octets of a host that has four of them, in either kind. -/
def octets? : Ip → Option (List Nat)
  | v4 octets => some octets
  | v6 [0, 0, 0, 0, 0, 0xFFFF, high, low] _ =>
    some [high / 256, high % 256, low / 256, low % 256]
  | v6 _ _ => none

/-- Whether a host is this machine. -/
def isLoopback (ip : Ip) : Bool :=
  match ip.octets?, ip with
  | some octets, _ => octets.head? = some 127
  | none, v6 groups _ => groups = [0, 0, 0, 0, 0, 0, 0, 1]
  | none, v4 _ => false

/-- Whether a host is in a private network. -/
def isPrivate (ip : Ip) : Bool :=
  match ip.octets?, ip with
  | some (10 :: _), _ => true
  | some (172 :: b :: _), _ => b / 16 = 1
  | some (192 :: b :: _), _ => b = 168
  | some _, _ => false
  | none, v6 (first :: _) _ => first / 512 = 0xFC / 2
  | none, _ => false

end Ip

/-! ## Hosts and ports -/

/-- The host and the port of an address; none if it has no port or its brackets are
out of place. -/
def splitPort? (address : Text) : Option (Text × Text) :=
  let port := (address.reverse.takeWhile (· ≠ Text.byte ':')).reverse
  let before := address.take (address.length - port.length - 1)
  if !address.contains (Text.byte ':') then none
  else if address.head? = some (Text.byte '[') then
    let host := (before.drop 1).takeWhile (· ≠ Text.byte ']')
    if before = Text.byte '[' :: host ++ [Text.byte ']']
        && !host.contains (Text.byte '[') && !port.contains (Text.byte '[')
        && !port.contains (Text.byte ']') then some (host, port)
    else none
  else if before.contains (Text.byte ':') || address.contains (Text.byte '[')
      || address.contains (Text.byte ']') then none
  else some (before, port)

/-- A host with a port behind it. -/
def joinPort (host port : Text) : Text :=
  if host.contains (Text.byte ':') then
    Text.byte '[' :: host ++ Text.ofString "]:" ++ port
  else host ++ Text.byte ':' :: port

/-- Whether an address, with or without a port, is local. A host that is not known is
not. -/
def isLocal (address : Text) : Bool :=
  let host :=
    match splitPort? address with
    | some (host, _) => host
    | none => address
  if host = Text.ofString "localhost" then true
  else
    match Ip.read host with
    | .ok ip => ip.isLoopback || ip.isPrivate
    | .error _ => false

end TapeDuel.Net
