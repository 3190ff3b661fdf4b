import TapeDuel.App.Settings
import TapeDuel.Bot.Load
import TapeDuel.Ledger.Shelf
import TapeDuel.Net.Route

/-!
# Sessions

A session is one run of the program. What the program finds around it is given; what
it prints, logs and records is collected. Jobs are pieces of work in a session: they
may fail, and what they did until then stays done.
-/

namespace TapeDuel.App

open Config (Loader)
open Log (Record)

/-- What the program finds around it. -/
structure Surroundings where
  /-- Reads a file. -/
  file : String → Except FileFlaw Text
  /-- Whether a file or directory exists. -/
  isThere : String → Bool
  /-- The directories of configuration files, the strongest first. -/
  directories : List String
  /-- Fetches a web address. -/
  web : String → Except Failure Text × List Record
  /-- The variables of the environment. -/
  variable_ : String → Text
  processors : Nat
  /-- The name of new spans. -/
  span : Log.Span
  /-- The identifiers of games, in the order in which they are given out. -/
  ids : Nat → GameId
  /-- Where a ledger path leads to, with these ledgers there. -/
  ledgerPlace : Shelf → String → Except LedgerFlaw LedgerPlace

/-- What a session has done so far. -/
structure Session where
  /-- What was printed, latest first. -/
  printed : List Text := []
  /-- What was logged, latest first. -/
  logged : List Record := []
  shelf : Shelf := []
  /-- How many identifiers of games were given out. -/
  idsUsed : Nat := 0

/-- Work in a session. -/
abbrev Work := ExceptT Failure (StateM Session)

namespace Work

/-- The work of giving a result that is there already. -/
def ofExcept {α : Type} (result : Except Failure α) : Work α :=
  ExceptT.mk (pure result)

/-- Prints a text. -/
def print (t : Text) : Work Unit :=
  modify fun s => { s with printed := t :: s.printed }

/-- Prints a text and ends the line. -/
def printLine (t : Text) : Work Unit :=
  print (t ++ [Text.byte '\n'])

/-- Logs records. -/
def log (records : List Record) : Work Unit :=
  modify fun s => { s with logged := records.reverse ++ s.logged }

/-- The identifiers of the next `n` games. -/
def takeIds (w : Surroundings) (n : Nat) : Work (List GameId) :=
  modifyGet fun s =>
    ((List.range' s.idsUsed n).map w.ids, { s with idsUsed := s.idsUsed + n })

end Work

namespace Surroundings

/-- The surroundings inside a tree of files, without a network and without an
environment. -/
def inTree (tree : FileTree) (origin : List String) (directories : List String)
    (span : Log.Span) (ids : Nat → GameId) : Surroundings where
  file := tree.read origin
  isThere := tree.holds origin
  directories
  web address := (.error (.plain s!"no way to {address}"), [])
  variable_ _ := []
  processors := 1
  span
  ids
  ledgerPlace := tree.ledgerPlace origin

/-- The configuration files, and the record of having found some. -/
def config (w : Surroundings) : Loader × List Record :=
  configLoader (configPaths w.directories w.isThere) w.file

/-- The configuration files. -/
def loader (w : Surroundings) : Loader :=
  w.config.1

/-- The address of the proxy, with the record of having found one. -/
def proxy (w : Surroundings) (o : Options) : Except Failure (Text × List Record) :=
  Net.proxyAddress .production o.proxy w.loader w.variable_

/-- Where bots are loaded from. Nothing can be loaded while the proxy is not settled. -/
def library (w : Surroundings) (o : Options) : Work Bot.Library := do
  let _ ← Work.ofExcept (w.proxy o)
  return ⟨w.file, w.web⟩

/-- Loads a bot. -/
def loadBot (w : Surroundings) (o : Options) (reference : String) : Work Bot := do
  let library ← w.library o
  let (result, records) := Bot.load library reference
  Work.log records
  Work.ofExcept result

/-- Loads bots, up to the first that fails. -/
def loadBots (w : Surroundings) (o : Options) (references : List String) :
    Work (List Bot) := do
  let library ← w.library o
  let (result, records) := Bot.loadAll library references
  Work.log records
  Work.ofExcept result

/-- The rounds of a game. -/
def rounds (w : Surroundings) (o : Options) : Work Rounds := do
  let steps ← Work.ofExcept (maxSteps o w.loader)
  let tapes ← Work.ofExcept (tapeRange o w.loader)
  let (rounds, record) := roundSequence tapes steps
  Work.log [record]
  return rounds

/-- The record of opening a ledger. -/
def openedRecord (path : String) : Record :=
  { level := .info, message := "ledger opened", attrs := [("path", .text path)] }

/-- Does a step in a transaction on the ledger. -/
def withLedger {α : Type} (w : Surroundings) (o : Options) (step : Transaction.Step α) :
    Work α := do
  let path ← Work.ofExcept (ledgerPath o w.loader)
  if path.isEmpty then throw .noLedger
  let path := path.toString?.getD ""
  let shelf := (← get).shelf
  let place ← Work.ofExcept ((w.ledgerPlace shelf path).mapError
      (LedgerFlaw.failure path))
  Work.log [openedRecord path]
  let result ← modifyGet fun s =>
    let (result, shelf) := s.shelf.update place step
    (result, { s with shelf })
  Work.ofExcept result

end Surroundings

end TapeDuel.App
