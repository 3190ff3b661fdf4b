import TapeDuel.Groups
import TapeDuel.Ledger.Basic

/-!
# Standings of a ledger

The standings over all games are the answer to a query. Every game gives two rows, one
for each of its bots: the rows of side A come first, those of side B are put behind them.
The rows of one name form a group, the columns of a group are added up, and the sums are
listed with the most points first, and by name where the points are equal.
-/

namespace TapeDuel

/-- A game as the query sees one of its bots. -/
structure StandingRow where
  name : String
  points : Int
  win : Nat
  loss : Nat
  draw : Nat
deriving DecidableEq, Repr

namespace StoredGame

/-- The row of the bot on side A. A comparison counts one where it holds. -/
def rowOfA (g : StoredGame) : StandingRow where
  name := g.a
  points := g.aPoints
  win := if g.aPoints > g.bPoints then 1 else 0
  loss := if g.aPoints < g.bPoints then 1 else 0
  draw := if g.aPoints = g.bPoints then 1 else 0

/-- The row of the bot on side B. -/
def rowOfB (g : StoredGame) : StandingRow where
  name := g.b
  points := g.bPoints
  win := if g.bPoints > g.aPoints then 1 else 0
  loss := if g.bPoints < g.aPoints then 1 else 0
  draw := if g.aPoints = g.bPoints then 1 else 0

end StoredGame

/-- Whether a sum, counted up from `total`, stays a number of 64 bits all along. -/
def sumFits (total : Int) : List Int → Bool
  | [] => true
  | p :: rest => fits64 (total + p) && sumFits (total + p) rest

namespace KeyGroup

/-- Whether the points of a group can be added up. -/
def pointsFit (g : KeyGroup StandingRow) : Bool :=
  sumFits 0 (g.members.map StandingRow.points)

/-- The name of a group and the sums of its columns. -/
def sums (g : KeyGroup StandingRow) : Standing where
  name := g.first.name
  points := (g.members.map StandingRow.points).foldl (· + ·) 0
  wins := (g.members.map StandingRow.win).foldl (· + ·) 0
  losses := (g.members.map StandingRow.loss).foldl (· + ·) 0
  draws := (g.members.map StandingRow.draw).foldl (· + ·) 0

end KeyGroup

namespace Ledger

/-- The rows of all games. -/
def standingRows (l : Ledger) : List StandingRow :=
  l.games.map StoredGame.rowOfA ++ l.games.map StoredGame.rowOfB

/-- The rows of each name. -/
def standingGroups (l : Ledger) : List (KeyGroup StandingRow) :=
  groupsBy StandingRow.name l.standingRows

/-- Whether the points of every name can be added up. -/
def pointsFit (l : Ledger) : Bool :=
  l.standingGroups.all KeyGroup.pointsFit

/-- Descending points, and ascending names where they are equal. -/
def listedBefore (s t : Standing) : Bool :=
  if s.points = t.points then decide (s.name ≤ t.name) else decide (s.points > t.points)

/-- The standings over all games. -/
def standings (l : Ledger) : List Standing :=
  (l.standingGroups.map KeyGroup.sums).mergeSort listedBefore

end Ledger

end TapeDuel
