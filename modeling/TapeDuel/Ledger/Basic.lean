import TapeDuel.Binary.Program
import TapeDuel.Bot.Basic
import TapeDuel.Ledger.GameId

/-!
# The ledger

The ledger keeps bots, games and rounds. A bot is kept under its name, and a later one
of the same name takes its place; its program is kept in binary and checked when it is
read back. A game is kept under its identifier, and its rounds are kept apart, each
with the game it belongs to and its place there; a game is read back by collecting its
rounds in the order of their places.
-/

namespace TapeDuel

/-- A bot as it is kept. -/
structure StoredBot where
  name : String
  source : Text
  program : Text
deriving DecidableEq, Repr

/-- A game as it is kept, without its rounds. -/
structure StoredGame where
  id : GameId
  a : String
  b : String
  aPoints : Int
  bPoints : Int
deriving DecidableEq, Repr

/-- A round as it is kept. -/
structure StoredRound where
  game : GameId
  /-- Its place among the rounds of its game, counted from zero. -/
  place : Nat
  round : RoundRecord
deriving DecidableEq, Repr

/-- What is kept: bots and rounds in no particular order, games in the order they were
recorded. -/
structure Ledger where
  bots : List StoredBot := []
  games : List StoredGame := []
  rounds : List StoredRound := []
  /-- No round is kept without its game. -/
  owned : ∀ r ∈ rounds, r.game ∈ games.map StoredGame.id := by simp
deriving DecidableEq, Repr

namespace Ledger

/-- Nothing is kept. -/
def empty : Ledger :=
  {}

/-- Keeps a bot in place of one of the same name. -/
def putBot (l : Ledger) (bot : Bot) : Ledger :=
  { l with
    bots := ⟨bot.name, bot.source, Binary.writeProgram bot.program⟩
      :: l.bots.filter fun b => b.name ≠ bot.name }

/-- The bot that is kept under a name. -/
def bot? (l : Ledger) (name : String) : Option StoredBot :=
  l.bots.find? fun b => b.name = name

/-- The names of the bots in ascending order. -/
def botNames (l : Ledger) : List String :=
  (l.bots.map StoredBot.name).mergeSort fun a b => a ≤ b

/-- A game as it is kept under an identifier. -/
def storedGame (id : GameId) (record : GameRecord) : StoredGame :=
  ⟨id, record.a, record.b, record.result.aPoints, record.result.bPoints⟩

/-- The rounds of a game as they are kept, each with its place. -/
def storedRounds (id : GameId) (record : GameRecord) : List StoredRound :=
  record.result.rounds.toList.mapIdx fun place round => ⟨id, place, round⟩

/-- Keeps a game. -/
def addGame (l : Ledger) (id : GameId) (record : GameRecord) : Ledger where
  bots := l.bots
  games := l.games ++ [storedGame id record]
  rounds := l.rounds ++ storedRounds id record
  owned := by
    intro r hr
    rw [List.map_append, List.mem_append]
    rcases List.mem_append.mp hr with hr | hr
    · exact .inl (l.owned r hr)
    · obtain ⟨place, hplace, rfl⟩ := List.mem_mapIdx.mp hr
      exact .inr List.mem_cons_self

/-- The rounds that are kept of a game, in the order of their places. -/
def roundsOf (l : Ledger) (id : GameId) : List RoundRecord :=
  ((l.rounds.filter fun r => r.game = id).mergeSort fun r r' => r.place ≤ r'.place).map
    StoredRound.round

/-- The game that is kept under an identifier. -/
def game? (l : Ledger) (id : GameId) : Option GameRecord :=
  (l.games.find? fun g => g.id = id).map fun g =>
    ⟨g.a, g.b, g.aPoints, g.bPoints, (l.roundsOf id).toArray⟩

/-- The identifiers of the games in the order they were recorded. -/
def gameIds (l : Ledger) : List GameId :=
  l.games.map StoredGame.id

end Ledger

end TapeDuel
