import TapeDuel.Host.FileTree
import TapeDuel.Ledger.Address
import TapeDuel.Ledger.Transaction

/-!
# Ledgers by place

A ledger lies in a file. It comes into being when it is first opened; what cannot be
opened is a path without a directory to hold it, or a file that is something else. A
ledger without a place is lost as soon as it is closed.
-/

namespace TapeDuel

namespace LedgerFlaw

/-- The flaw in words. -/
def describe : LedgerFlaw → String
  | noDirectory => "unable to open database file: out of memory (14)"
  | notLedger => "file is not a database (26)"
  | badAddress => "SQL logic error: out of memory (1)"

/-- The failure of opening a ledger at a path. -/
def failure (path : String) (flaw : LedgerFlaw) : Failure :=
  .within s!"init ledger {path}" (.ledgerUnopened flaw.describe)

end LedgerFlaw

/-- Where a ledger lies; nowhere, if it is not kept. -/
abbrev LedgerPlace := Option String

/-- Ledgers by the places they lie in. -/
abbrev Shelf := List (String × Ledger)

namespace Shelf

/-- The ledger in a place; one that was never opened is empty. -/
def get (shelf : Shelf) : LedgerPlace → Ledger
  | none => .empty
  | some place => (shelf.lookup place).getD .empty

/-- Puts a ledger back in its place. -/
def put (shelf : Shelf) (place : LedgerPlace) (ledger : Ledger) : Shelf :=
  match place with
  | none => shelf
  | some place => (place, ledger) :: shelf.filter fun l => l.1 ≠ place

/-- Does a step in a transaction of its own on the ledger in a place. -/
def update {α : Type} (shelf : Shelf) (place : LedgerPlace) (step : Transaction.Step α) :
    Except Failure α × Shelf :=
  let (result, ledger) := (shelf.get place).update step
  (result, shelf.put place ledger)

end Shelf

namespace FileTree

/-- The name of a place in a tree of files. -/
def placeName (place : List String) : String :=
  String.intercalate "/" place

/-- The place that a path means by its words alone. A component that `..` leaves again
need not exist, but it may not stand below a file. -/
def settle (tree : FileTree) (place : List String) : List String → Option (List String)
  | [] => some place
  | name :: rest =>
    if name = "" || name = "." then settle tree place rest
    else if name = ".." then settle tree place.dropLast rest
    else if maxName < name.utf8ByteSize || (tree.file? place).isSome then none
    else settle tree (place ++ [name]) rest

/-- The most bytes of a file that counts as empty. -/
def maxEmpty : Nat :=
  1

/-- The ledger in a file of the tree. A file that is not there yet has to be found on
the shelf, unless it may come into being. -/
def ledgerIn (tree : FileTree) (shelf : Shelf) (mode : LedgerMode)
    (place : List String) : Except LedgerFlaw LedgerPlace :=
  let name := placeName place
  if place.isEmpty || tree.isDirectory place || !tree.isDirectory place.dropLast then
    .error .noDirectory
  else
    match tree.file? place with
    | some content =>
        if content.length ≤ maxEmpty then .ok (some name) else .error .notLedger
    | none =>
      if mode = .create || (shelf.lookup name).isSome then .ok (some name)
      else .error .noDirectory

/-- The place that a path leads to from the directory `origin` of a tree of files. -/
def ledgerPlace (tree : FileTree) (origin : List String) (shelf : Shelf)
    (path : String) : Except LedgerFlaw LedgerPlace := do
  let address ← LedgerAddress.read path
  match address.file.map fun file => file.toString?.getD path with
  | none => return none
  | some file =>
    match tree.settle (if isAbsolute file then [] else origin) (components file) with
    | some place => tree.ledgerIn shelf address.mode place
    | none => throw .noDirectory

/-- The shelf after files were put into the tree: a ledger that lay there is gone. -/
def forgetLedgers (shelf : Shelf) (places : List (List String)) : Shelf :=
  shelf.filter fun l => !(places.map placeName).contains l.1

end FileTree

end TapeDuel
