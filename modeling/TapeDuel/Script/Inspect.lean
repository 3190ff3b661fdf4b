import TapeDuel.Bot.Basic
import TapeDuel.Script.Value

/-!
# Results as values of scripts

What a game leaves behind is handed to scripts as tables, with one key for each part.
Things that have a name by themselves, such as the operation of an instruction, are
handed over as that name.
-/

namespace TapeDuel.Script.Value

/-- An instruction for scripts. -/
def ofInstruction (i : Instruction) : Value :=
  record [("Op", text i.op.name), ("Target", int i.target),
    ("Iterations", int i.iterations)]

/-- A program for scripts. -/
def ofProgram (p : Program) : Value :=
  list (p.toList.map ofInstruction)

/-- A tape for scripts. -/
def ofTape (t : Tape) : Value :=
  list (t.toList.map fun cell => int cell.toInt)

/-- The parameters of a round for scripts. -/
def ofParams (p : RoundParams) : Value :=
  record [("TapeLength", int p.tapeLength.toInt), ("InvertPolarity", bool p.inverted),
    ("MaxSteps", int p.maxSteps.toInt)]

/-- A verdict for scripts. -/
def ofVerdict (v : Verdict) : Value :=
  record [("ALost", bool v.aLost), ("BLost", bool v.bLost)]

/-- A round for scripts. -/
def ofRound (r : RoundRecord) : Value :=
  record [("Params", ofParams r.params), ("Result", ofVerdict r.verdict),
    ("Steps", int r.steps)]

/-- A game for scripts. -/
def ofGame (g : GameResult) : Value :=
  record [("APoints", int g.aPoints), ("BPoints", int g.bPoints),
    ("Rounds", list (g.rounds.toList.map ofRound))]

/-- A game with the names of its bots for scripts. -/
def ofGameRecord (g : GameRecord) : Value :=
  record [("A", text g.a), ("B", text g.b), ("Result", ofGame g.result)]

/-- A bot for scripts. -/
def ofBot (b : Bot) : Value :=
  record [("Name", text b.name), ("Source", text b.source),
    ("Program", ofProgram b.program)]

/-- A standing for scripts. -/
def ofStanding (s : Standing) : Value :=
  record [("Name", text s.name), ("Points", int s.points), ("Wins", int s.wins),
    ("Losses", int s.losses), ("Draws", int s.draws)]

end TapeDuel.Script.Value
