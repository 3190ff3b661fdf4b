import TapeDuel.Ledger.GameId
import TapeDuel.Match.Tournament
import TapeDuel.Text.Columns
import TapeDuel.Text.Decimal

/-!
# What the program prints

Lines for rounds and games, and the table of standings.
-/

namespace TapeDuel.App

/-- A round: its parameters, its verdict and its steps. -/
def roundLine (r : RoundRecord) : Text :=
  Text.padRight 28 r.params.describe ++ Text.ofString " "
    ++ Text.padRight 8 r.verdict.describe ++ Text.ofString " "
    ++ Text.padLeft 6 (Decimal.writeInt r.steps) ++ Text.ofString " steps"

/-- What is said behind a round that does not repeat the recorded one. -/
def mismatchMark (recorded : RoundRecord) : Text :=
  Text.ofString s!"  recorded {recorded.verdict.describe} in {recorded.steps} steps"

/-- A game: its bots and its result. -/
def gameLine (a b : String) (result : GameResult) : Text :=
  Text.ofString s!"{a} vs {b}: {result.describe}"

/-- A game with its identifier. -/
def listedGame (id : GameId) (g : GameRecord) : Text :=
  id.write ++ Text.ofString "  " ++ gameLine g.a g.b g.result

/-- The state of a round while it is played. -/
def traceLine (arena : Arena) : Text :=
  Text.padLeft 6 (Decimal.write arena.steps)
    ++ Text.ofString
      s!"  {arena.tape.describe}  a@{arena.a.position} b@{arena.b.position}"

/-- A round that was played by itself, with the tape that it left. -/
def finishedRound (a b : String) (params : RoundParams) (arena : Arena) : Text :=
  Text.ofString (s!"{a} vs {b}, {params.describe}: {arena.verdict.describe} after "
    ++ s!"{arena.steps} steps\ntape {arena.tape.describe}\n")

/-- The head of the table of standings. -/
def standingsHead : List Text :=
  ["#", "bot", "points", "wins", "losses", "draws"]

/-- One row of the table of standings. -/
def standingRow (s : Standing) (place : Nat) : List Text :=
  [Decimal.write place, s.name, GameResult.signed s.points, Decimal.write s.wins,
    Decimal.write s.losses, Decimal.write s.draws]

/-- The table of standings. The names of bots stand in it as they are: one that holds
a tab takes two cells. -/
def standingsTable (standings : List Standing) : Text :=
  let rows := standingsHead :: standings.zipIdx.map fun (s, i) => standingRow s (i + 1)
  Text.setColumns
    (rows.flatMap fun row => Text.intercalate [Text.byte '\t'] row ++ [Text.byte '\n'])

end TapeDuel.App
