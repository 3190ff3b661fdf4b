import TapeDuel.Number.Floating

/-!
# Where a ledger is said to lie

A ledger is named by a path, and the path of a file is the simplest name. Behind a
question mark a path may say more, which is left out. A path that starts with `file:`
is an address of parts: its bytes may be escaped by percent signs, and the options
behind its question mark say how the ledger is opened. A ledger may also lie nowhere;
then it is gone when it is closed.
-/

namespace TapeDuel

/-- Why a ledger cannot be opened. -/
inductive LedgerFlaw where
  | noDirectory
  /-- The file holds something else. -/
  | notLedger
  /-- The address asks for what there is not. -/
  | badAddress
deriving DecidableEq, Repr

/-- Whether a ledger comes into being when it is opened. -/
inductive LedgerMode where
  | create
  | existing
deriving DecidableEq, Repr

/-- Where a ledger lies; nowhere, if it has no file. -/
structure LedgerAddress where
  file : Option Text
  mode : LedgerMode := .create
deriving DecidableEq, Repr

namespace LedgerAddress

/-- The path of a ledger that lies nowhere. -/
def unkeptPath : Text :=
  ":memory:"

/-- The byte that an escape of three bytes stands for. -/
def escaped? (b h l : UInt8) : Option UInt8 := do
  if b ≠ Text.byte '%' then none
  return UInt8.ofNat (16 * (← Number.digitValue? 16 h) + (← Number.digitValue? 16 l))

/-- The bytes that a part of an address spells. Behind an escaped NUL the part says
nothing more. -/
def unescape : Text → Text
  | b :: rest@(h :: l :: more) =>
    match escaped? b h l with
    | some byte => if byte = 0 then [] else byte :: unescape more
    | none => b :: unescape rest
  | t => t

/-- A text cut at the first of some bytes, which is dropped. -/
def cutAt (b : UInt8) (t : Text) : Text × Text :=
  (t.takeWhile (· ≠ b), (t.dropWhile (· ≠ b)).drop 1)

/-- The options behind the question mark of an address; those without a name say
nothing. -/
def options (query : Text) : List (Text × Text) :=
  let pairs := (query.splitOn (Text.byte '&')).map fun option =>
    let (name, value) := cutAt (Text.byte '=') option
    (unescape name, unescape value)
  pairs.filter fun (name, _) => !name.isEmpty

/-- The address with one option more. -/
def addOption (a : LedgerAddress) (name value : Text) :
    Except LedgerFlaw LedgerAddress :=
  if name = Text.ofString "mode" then
    if value = Text.ofString "rwc" then .ok { a with mode := .create }
    else if value = Text.ofString "rw" || value = Text.ofString "ro" then
      .ok { a with mode := .existing }
    else if value = Text.ofString "memory" then .ok { a with file := none }
    else .error .badAddress
  else if name = Text.ofString "cache" then
    if value = Text.ofString "shared" || value = Text.ofString "private" then .ok a
    else .error .badAddress
  else .ok a

/-- The part of an address behind its host, which may only be the machine itself. -/
def behindHost (t : Text) : Except LedgerFlaw Text :=
  match t with
  | a :: b :: rest =>
    if a = Text.byte '/' && b = Text.byte '/' then
      let host := rest.takeWhile (· ≠ Text.byte '/')
      if host.isEmpty || host = Text.ofString "localhost" then
        .ok (rest.drop host.length)
      else .error .badAddress
    else .ok t
  | _ => .ok t

/-- The address of a file, which an unkept path and an empty one do not have. -/
def ofFile (file : Text) : LedgerAddress :=
  { file := if file.isEmpty || file = unkeptPath then none else some file }

/-- What an address with parts starts with. -/
def scheme : Text :=
  "file:"

/-- Reads the path of a ledger. -/
def read (t : Text) : Except LedgerFlaw LedgerAddress := do
  if scheme.isPrefixOf t then
    let t ← behindHost (t.drop scheme.length)
    let (file, query) := cutAt (Text.byte '?') (t.takeWhile (· ≠ Text.byte '#'))
    (options query).foldlM (fun a (name, value) => a.addOption name value)
      (ofFile (unescape file))
  else
    match t with
    | [] => return ofFile []
    | first :: rest => return ofFile (first :: rest.takeWhile (· ≠ Text.byte '?'))

end LedgerAddress

end TapeDuel
