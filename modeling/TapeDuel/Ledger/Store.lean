import TapeDuel.Ledger.Transaction

/-!
# Open and closed ledgers

A ledger that was closed cannot be used until it is opened again. What it keeps stays,
unless it lies nowhere: such a ledger is empty whenever it is opened.
-/

namespace TapeDuel

/-- A ledger and whether it is open. -/
structure LedgerStore where
  ledger : Ledger := .empty
  isOpen : Bool := true
  /-- Whether the ledger outlives its closing. -/
  isKept : Bool := true
deriving DecidableEq, Repr

namespace LedgerStore

/-- The failure of using a closed ledger. -/
def closedFailure : Failure :=
  .plain "sql: database is closed"

/-- Closes the ledger. -/
def close (s : LedgerStore) : LedgerStore :=
  { s with isOpen := false }

/-- Closes the ledger and opens it again. -/
def reopen (s : LedgerStore) : LedgerStore :=
  { s with isOpen := true, ledger := if s.isKept then s.ledger else .empty }

/-- Does a step in a transaction of its own. -/
def update {α : Type} (s : LedgerStore) (step : Transaction.Step α) :
    Except Failure α × LedgerStore :=
  if s.isOpen then
    let (result, ledger) := s.ledger.update step
    (result, { s with ledger })
  else (.error closedFailure, s)

end LedgerStore

end TapeDuel
