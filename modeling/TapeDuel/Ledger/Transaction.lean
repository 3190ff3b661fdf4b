import TapeDuel.Ledger.Standings

/-!
# Transactions

The ledger is read and changed inside transactions. A transaction sees its own
changes, and they become part of the ledger when it is committed; a transaction that
is rolled back leaves no trace. Nothing can be done in a transaction that is done.
-/

namespace TapeDuel

/-- A transaction on a ledger. -/
structure Transaction where
  /-- The ledger outside. -/
  stored : Ledger
  /-- The ledger as the transaction sees it. -/
  current : Ledger
  /-- Whether the transaction was committed or rolled back. -/
  isDone : Bool := false
deriving DecidableEq, Repr

namespace Transaction

/-- What is done in a transaction: it gives a result and changes the transaction. -/
abbrev Step (α : Type) := Transaction → Except Failure α × Transaction

/-- A new transaction. -/
def start (ledger : Ledger) : Transaction :=
  { stored := ledger, current := ledger }

/-- Makes the changes part of the ledger. -/
def commit : Step Unit := fun t =>
  if t.isDone then (.error .transactionDone, t)
  else (.ok (), { t with stored := t.current, isDone := true })

/-- Drops the changes. -/
def rollback (t : Transaction) : Transaction :=
  { t with isDone := true }

/-- Looks at the ledger. -/
def view {α : Type} (f : Ledger → Except Failure α) : Step α := fun t =>
  if t.isDone then (.error .transactionDone, t) else (f t.current, t)

/-- Changes the ledger; the failure of a finished transaction gets some words before
it. -/
def change (context : String) (f : Ledger → Ledger) : Step Unit := fun t =>
  if t.isDone then (.error (.within context .transactionDone), t)
  else (.ok (), { t with current := f t.current })

/-- Keeps a bot. -/
def saveBot (bot : Bot) : Step Unit :=
  change s!"save bot {bot.name}" fun l => l.putBot bot

/-- Reads a bot back. Its program is checked, not compiled again. -/
def loadBot (name : String) : Step Bot :=
  view fun l =>
    match l.bot? name with
    | none => .error (.within s!"bot {name}" .notFound)
    | some b =>
      match Binary.readProgram b.program with
      | .error failure => .error (.within s!"bot {name}" failure)
      | .ok program => .ok ⟨name, b.source, program⟩

/-- The names of the bots. -/
def botNames : Step (List String) :=
  view fun l => .ok l.botNames

/-- Keeps a game under a new identifier. -/
def saveGame (id : GameId) (record : GameRecord) : Step Unit :=
  change s!"save game {record.a} vs {record.b}" fun l => l.addGame id record

/-- Reads a game back. -/
def loadGame (id : GameId) : Step GameRecord :=
  view fun l =>
    match l.game? id with
    | none => .error (.within s!"game {id.describe}" .notFound)
    | some record => .ok record

/-- The identifiers of the games. -/
def gameIds : Step (List GameId) :=
  view fun l => .ok l.gameIds

/-- The standings over all games; there are none when the points of a bot outgrow a
word. -/
def standings : Step (List Standing) :=
  view fun l =>
    if l.pointsFit then .ok l.standings
    else .error (.plain "SQL logic error: integer overflow (1)")

/-- One step after another, as long as none fails. -/
def andThen {α β : Type} (first : Step α) (next : α → Step β) : Step β := fun t =>
  match first t with
  | (.error failure, t) => (.error failure, t)
  | (.ok a, t) => next a t

/-- A step for each element of a list, up to the first failure. -/
def forEach {α β : Type} (f : α → Step β) : List α → Step (List β)
  | [], t => (.ok [], t)
  | a :: rest, t =>
    match f a t with
    | (.error failure, t) => (.error failure, t)
    | (.ok b, t) =>
      match forEach f rest t with
      | (.error failure, t) => (.error failure, t)
      | (.ok bs, t) => (.ok (b :: bs), t)

/-- Ends a transaction: it is committed if all went well, else rolled back. -/
def settle {α : Type} (t : Transaction) (result : Except Failure α) :
    Except Failure α × Ledger :=
  match result with
  | .error failure => (.error failure, t.rollback.stored)
  | .ok a =>
    match t.commit with
    | (.error failure, t) => (.error failure, t.rollback.stored)
    | (.ok (), t) => (.ok a, t.stored)

end Transaction

/-- Does a step in a transaction of its own, which is committed if the step succeeds. -/
def Ledger.update {α : Type} (ledger : Ledger) (step : Transaction.Step α) :
    Except Failure α × Ledger :=
  let (result, t) := step (.start ledger)
  t.settle result

end TapeDuel
