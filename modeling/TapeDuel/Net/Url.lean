import TapeDuel.Net.Address
import TapeDuel.Net.Escape

/-!
# Web addresses

A web address is cut into its parts from the outside: fragment, scheme, query, then
the host with what stands before and behind it. The parts are kept as they were
written and escaped anew only where they have to be.
-/

namespace TapeDuel.Net

/-- A user with perhaps a password, both without escapes. -/
structure UserInfo where
  name : Text
  password : Option Text
deriving DecidableEq, Repr

/-- The parts of a web address. -/
structure Url where
  /-- The scheme in small letters; empty for none. -/
  scheme : Text := []
  /-- What follows the scheme if that is no path from the root. -/
  rootless : Text := []
  user : Option UserInfo := none
  /-- The host with its port, without escapes. -/
  host : Text := []
  /-- Whether a path from the root follows the scheme at once. -/
  omitsHost : Bool := false
  /-- The path as it was written. -/
  path : Text := []
  /-- Whether a question mark stands although there is no query. -/
  forcesQuery : Bool := false
  query : Text := []
  /-- The fragment as it was written. -/
  fragment : Text := []
deriving DecidableEq, Repr

/-- A user as it is written. -/
def UserInfo.write (u : UserInfo) : Text :=
  UrlPart.user.escape u.name
    ++ match u.password with
      | some password => Text.byte ':' :: UrlPart.user.escape password
      | none => []

namespace Url

/-- A text up to the first byte `b`, and what follows that; nothing follows if there
is none. -/
def cut (b : UInt8) (t : Text) : Text × Text :=
  (t.takeWhile (· ≠ b), (t.dropWhile (· ≠ b)).drop 1)

/-- A text up to the last byte `b`, and what follows that; none if there is no such
byte. -/
def cutLast? (b : UInt8) (t : Text) : Option (Text × Text) :=
  if t.contains b then
    let after := (t.reverse.takeWhile (· ≠ b)).reverse
    some (t.take (t.length - after.length - 1), after)
  else none

/-! ## Reading -/

/-- Whether a byte may stand in a scheme behind its first one. -/
def inScheme (b : UInt8) : Bool :=
  UrlPart.isWord b || (Text.ofString "+-.").contains b

/-- The scheme of an address and what follows it. -/
def takeScheme (t : Text) : Except Text (Text × Text) :=
  let scheme := t.takeWhile inScheme
  match t.head?, t.dropWhile inScheme with
  | some first, b :: rest =>
    if b ≠ Text.byte ':' then .ok ([], t)
    else if scheme.isEmpty then .error "missing protocol scheme"
    else if UrlPart.isWord first && !Decimal.isDigit first then
      .ok (scheme.map Number.lower, rest)
    else .ok ([], t)
  | _, _ => .ok ([], t)

/-- Whether a text is empty or a port behind a colon. -/
def isPort : Text → Bool
  | [] => true
  | b :: digits => b = Text.byte ':' && digits.all Decimal.isDigit

/-- The words of a port that is none. -/
def badPort (port : Text) : Text :=
  Text.ofString "invalid port " ++ port.quote ++ Text.ofString " after host"

/-- Where a text first holds another. -/
def indexOf? (part : Text) : Text → Option Nat
  | [] => if part.isEmpty then some 0 else none
  | b :: rest =>
    if part.isPrefixOf (b :: rest) then some 0 else (indexOf? part rest).map (· + 1)

/-- The host inside brackets, without escapes. A zone behind it has rules of its own. -/
def readBracketed (t : Text) : Except Text Text :=
  match indexOf? "%25" t with
  | none => UrlPart.host.unescape t
  | some n => do
    return (← UrlPart.host.unescape (t.take n)) ++ (← UrlPart.zone.unescape (t.drop n))

/-- The schemes whose hosts hold no colon but the one before the port. -/
def strictSchemes : List Text :=
  ["http", "https"]

/-- The part of a host that should be a port, with its colon. Where a host may hold
colons of its own the last one counts. -/
def portPart (scheme host : Text) : Text :=
  if strictSchemes.contains scheme then host.dropWhile (· ≠ Text.byte ':')
  else
    match cutLast? (Text.byte ':') host with
    | some (_, port) => Text.byte ':' :: port
    | none => []

/-- The host of an address, with its port. Brackets are for numbers of the longer kind
only, and nothing stands before them. -/
def readHost (scheme t : Text) : Except Text Text := do
  match cutLast? (Text.byte '[') t with
  | some (_ :: _, _) => throw (Text.ofString "invalid IP-literal")
  | some ([], _) =>
    match cutLast? (Text.byte ']') t with
    | none => throw (Text.ofString "missing ']' in host")
    | some (upTo, port) =>
      if !isPort port then throw (badPort port)
      let port ← UrlPart.host.unescape port
      let host ← readBracketed (upTo.drop 1)
      match Ip.read host with
      | .error flaw => throw (Text.ofString "invalid host: " ++ flaw.message host)
      | .ok (.v4 _) => throw (Text.ofString "invalid IP-literal")
      | .ok (.v6 _ _) => return Text.byte '[' :: host ++ Text.byte ']' :: port
  | none =>
    let port := portPart scheme t
    if !isPort port then throw (badPort port)
    UrlPart.host.unescape t

/-- Whether a text can be the name and password of a user. -/
def isUserInfo (t : Text) : Bool :=
  t.all fun b => UrlPart.isWord b || (Text.ofString "-._:~!$&'()*+,;=%@").contains b

/-- The user before a host. -/
def readUser (t : Text) : Except Text UserInfo := do
  if !isUserInfo t then throw (Text.ofString "net/url: invalid userinfo")
  let (name, password) := cut (Text.byte ':') t
  let name ← UrlPart.user.unescape name
  if t.contains (Text.byte ':') then
    return ⟨name, some (← UrlPart.user.unescape password)⟩
  else return ⟨name, none⟩

/-- The user and the host of an address. -/
def readAuthority (scheme t : Text) : Except Text (Option UserInfo × Text) := do
  match cutLast? (Text.byte '@') t with
  | none => return (none, ← readHost scheme t)
  | some (user, host) =>
    let host ← readHost scheme host
    return (some (← readUser user), host)

/-- Whether a byte is a control character. -/
def isControl (b : UInt8) : Bool :=
  b < 32 || b = 127

/-- The query behind the path: whether only its mark stands there, the rest of the
address, and the query. -/
def cutQuery (t : Text) : Bool × Text × Text :=
  if t.getLast? = some (Text.byte '?') && t.count (Text.byte '?') = 1 then
    (true, t.dropLast, [])
  else (false, cut (Text.byte '?') t)

/-- Reads an address without its fragment; the error is in words. -/
def readWhole (t : Text) : Except Text Url := do
  if t.any isControl then
    throw (Text.ofString "net/url: invalid control character in URL")
  if t = [Text.byte '*'] then return { path := t }
  let (scheme, rest) ← takeScheme t
  let (forcesQuery, rest, query) := cutQuery rest
  let url : Url := { scheme, forcesQuery, query }
  let rooted := rest.head? = some (Text.byte '/')
  if !rooted && !scheme.isEmpty then return { url with rootless := rest }
  if !rooted && (cut (Text.byte '/') rest).1.contains (Text.byte ':') then
    throw (Text.ofString "first path segment in URL cannot contain colon")
  let slashes := rest.takeWhile (· = Text.byte '/')
  if 2 ≤ slashes.length && (!scheme.isEmpty || slashes.length = 2) then
    let authority := (rest.drop 2).takeWhile (· ≠ Text.byte '/')
    let path := (rest.drop 2).dropWhile (· ≠ Text.byte '/')
    let (user, host) ← readAuthority scheme authority
    discard (UrlPart.path.unescape path)
    return { url with user, host, path }
  else
    discard (UrlPart.path.unescape rest)
    return { url with omitsHost := !scheme.isEmpty && rooted, path := rest }

/-- Reads an address. The error names the address as far as it was looked at. -/
def read (t : Text) : Except Text Url :=
  let failed (seen words : Text) : Text :=
    Text.ofString "parse " ++ seen.quote ++ Text.ofString ": " ++ words
  let (whole, fragment) := cut (Text.byte '#') t
  match readWhole whole with
  | .error words => .error (failed whole words)
  | .ok url =>
    match UrlPart.fragment.unescape fragment with
    | .error words => .error (failed t words)
    | .ok _ => .ok { url with fragment }

/-! ## Writing -/

/-- The part of an address between its scheme and its path, given how the user is
written. -/
def writeAuthority (url : Url) (user : Option Text) : Text :=
  if url.scheme.isEmpty && url.host.isEmpty && user.isNone then []
  else if url.omitsHost && url.host.isEmpty && user.isNone then []
  else
    (if url.host.isEmpty && url.path.isEmpty && user.isNone then []
      else Text.ofString "//")
      ++ (user.map fun u => u ++ [Text.byte '@']).getD []
      ++ UrlPart.host.escape url.host

/-- An address as it is written, given how the user is written. -/
def writeWith (url : Url) (user : Option Text) : Text :=
  let scheme := if url.scheme.isEmpty then [] else url.scheme ++ [Text.byte ':']
  let path := UrlPart.path.normal url.path
  let before := scheme ++ url.writeAuthority user
  let hierarchy :=
    if !url.rootless.isEmpty then scheme ++ url.rootless
    else if !path.isEmpty && path.head? ≠ some (Text.byte '/') && !url.host.isEmpty then
      before ++ Text.byte '/' :: path
    else if before.isEmpty && (cut (Text.byte '/') path).1.contains (Text.byte ':') then
      Text.ofString "./" ++ path
    else before ++ path
  hierarchy
    ++ (if url.forcesQuery || !url.query.isEmpty then Text.byte '?' :: url.query else [])
    ++ (if url.fragment.isEmpty then []
      else Text.byte '#' :: UrlPart.fragment.normal url.fragment)

/-- An address as it is written. -/
def write (url : Url) : Text :=
  url.writeWith (url.user.map UserInfo.write)

/-- An address as it is written in messages: a password is hidden. -/
def writeHidden (url : Url) : Text :=
  url.writeWith (url.user.map fun u =>
    if u.password.isSome then u.name ++ Text.ofString ":***" else u.write)

/-! ## Hosts -/

/-- An address whose host does not end in a colon without a port. -/
def dropEmptyPort (url : Url) : Url :=
  match url.host.getLast? with
  | some b => if b = Text.byte ':' then { url with host := url.host.dropLast } else url
  | none => url

/-- The host of an address without brackets, and its port. -/
def hostAndPort (url : Url) : Text × Text :=
  let (host, port) :=
    match cutLast? (Text.byte ':') url.host with
    | some (host, port) =>
        if port.all Decimal.isDigit then (host, port) else (url.host, [])
    | none => (url.host, [])
  if host.head? = some (Text.byte '[') && host.getLast? = some (Text.byte ']') then
    ((host.drop 1).dropLast, port)
  else (host, port)

end Url

end TapeDuel.Net
