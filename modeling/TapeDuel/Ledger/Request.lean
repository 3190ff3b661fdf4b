import TapeDuel.Ledger.Store

/-!
# Requests to a ledger

A ledger is used by requests. Several of them may share one transaction: the first
failure takes back all of it. A batch may also commit by itself before it ends, and it
may end with a failure of its own.
-/

namespace TapeDuel

/-- What a ledger is asked for. -/
inductive Request where
  /-- Compile a source and keep the bot. -/
  | saveSource (name : String) (source : Text)
  | saveBot (bot : Bot)
  | loadBot (name : String)
  | botNames
  | saveGame (record : GameRecord)
  /-- Play a game between two bots that are kept, and keep it. -/
  | play (a b : String) (rounds : Rounds)
  | loadGame (id : GameId)
  | gameIds
  | standings

/-- What a ledger answers. -/
inductive Reply where
  | done
  | bot (bot : Bot)
  | names (names : List String)
  | saved (number : Nat) (record : GameRecord)
  /-- A game, or why there is none; a missing game is no failure of the transaction. -/
  | game (found : Except Failure GameRecord)
  | ids (ids : List GameId)
  | standings (standings : List Standing)

namespace Request

open Transaction

/-- A step whose result is made a reply. -/
def replying {α : Type} (step : Step α) (reply : α → Reply) : Step Reply := fun t =>
  match step t with
  | (.ok a, t) => (.ok (reply a), t)
  | (.error failure, t) => (.error failure, t)

/-- Keeps a game under the identifier of the next number. -/
def keep (ids : Nat → GameId) (record : GameRecord) (n : Nat) :
    Step (Reply × Nat) := fun t =>
  match Transaction.saveGame (ids n) record t with
  | (.ok (), t) => (.ok (.saved n record, n + 1), t)
  | (.error failure, t) => (.error failure, t)

/-- Requests that keep no game. -/
def unnumbered (n : Nat) (step : Step Reply) : Step (Reply × Nat) := fun t =>
  match step t with
  | (.ok reply, t) => (.ok (reply, n), t)
  | (.error failure, t) => (.error failure, t)

/-- Does what is asked for. Games get the identifiers `ids`, from number `n` on; the
result comes with the next free number. -/
def step (ids : Nat → GameId) (n : Nat) : Request → Step (Reply × Nat)
  | saveSource name source =>
    unnumbered n fun t =>
      match Bot.new name source with
      | .error failure => (.error failure, t)
      | .ok bot => replying (Transaction.saveBot bot) (fun _ => .done) t
  | saveBot bot => unnumbered n (replying (Transaction.saveBot bot) fun _ => .done)
  | loadBot name => unnumbered n (replying (Transaction.loadBot name) .bot)
  | botNames => unnumbered n (replying Transaction.botNames .names)
  | saveGame record => keep ids record n
  | play a b rounds =>
    andThen (Transaction.loadBot a) fun botA =>
      andThen (Transaction.loadBot b) fun botB => fun t =>
        match Game.play .never botA.program botB.program rounds with
        | .error failure => (.error failure, t)
        | .ok result => keep ids ⟨a, b, result⟩ n t
  | loadGame id =>
    unnumbered n fun t =>
      let (found, t) := Transaction.loadGame id t
      (.ok (.game found), t)
  | gameIds => unnumbered n (replying Transaction.gameIds .ids)
  | standings => unnumbered n (replying Transaction.standings .standings)

/-- Does what is asked for, one after the other, up to the first failure. The numbers
given out stay given out, whatever becomes of the transaction. -/
def steps (ids : Nat → GameId) : Nat → List Request → Transaction →
    Except Failure (List Reply) × Nat × Transaction
  | n, [], t => (.ok [], n, t)
  | n, r :: rest, t =>
    match r.step ids n t with
    | (.error failure, t) => (.error failure, n, t)
    | (.ok (reply, n), t) =>
      match steps ids n rest t with
      | (.ok replies, n, t) => (.ok (reply :: replies), n, t)
      | (.error failure, n, t) => (.error failure, n, t)

end Request

/-- Requests that share one transaction. -/
structure Batch where
  requests : List Request
  /-- Whether the batch commits the transaction itself. -/
  commits : Bool := false
  /-- The failure that the batch ends with. -/
  abort : Option Failure := none

/-- Does a batch inside a transaction. -/
def Batch.run (b : Batch) (ids : Nat → GameId) (n : Nat) (t : Transaction) :
    Except Failure (List Reply) × Nat × Transaction :=
  match Request.steps ids n b.requests t with
  | (.error failure, n, t) => (.error failure, n, t)
  | (.ok replies, n, t) =>
    let t := if b.commits then t.commit.2 else t
    match b.abort with
    | some failure => (.error failure, n, t)
    | none => (.ok replies, n, t)

/-- Does a batch in a transaction of its own. -/
def LedgerStore.run (s : LedgerStore) (ids : Nat → GameId) (n : Nat) (b : Batch) :
    Except Failure (List Reply) × Nat × LedgerStore :=
  if s.isOpen then
    let (result, n, t) := b.run ids n (.start s.ledger)
    let (result, ledger) := t.settle result
    (result, n, { s with ledger })
  else (.error closedFailure, n, s)

end TapeDuel
