import TapeDuel.Log.Span
import TapeDuel.Match.Tournament

/-!
# Games and tournaments on record

The same games and tournaments, with a log of what happened. Each has a span of its
own, which its records and its failure carry.
-/

namespace TapeDuel

namespace Log

/-- The parameters of a round. -/
def Value.ofParams (p : RoundParams) : Value :=
  .summarised p.describe
    [("TapeLength", .int p.tapeLength.toInt), ("InvertPolarity", .bool p.inverted),
      ("MaxSteps", .int p.maxSteps.toInt)]

/-- A verdict. -/
def Value.ofVerdict (v : Verdict) : Value :=
  .summarised v.describe [("ALost", .bool v.aLost), ("BLost", .bool v.bLost)]

/-- A round that was played; it has no text of its own. -/
def Value.ofRound (r : RoundRecord) : Value :=
  .summarised "" [("Params", ofParams r.params), ("Result", ofVerdict r.verdict),
    ("Steps", .int r.steps)]

/-- The result of a game. -/
def Value.ofGame (g : GameResult) : Value :=
  .summarised g.describe
    [("APoints", .int g.aPoints), ("BPoints", .int g.bPoints),
      ("Rounds",
        if g.rounds.isEmpty then .null else .list (g.rounds.toList.map ofRound))]

end Log

open Log (Record Value)

namespace Game

/-- The record of a played round. -/
def roundRecord (span : Log.Span) (r : RoundRecord) : Record :=
  { level := .debug
    message := "round"
    attrs := [("params", .ofParams r.params), ("result", .ofVerdict r.verdict),
      ("steps", .int r.steps)]
    span := some span }

/-- Plays a game in a span of its own. It took `elapsed` nanoseconds. -/
def playLogged (interrupts : Interrupts) (span : Log.Span) (elapsed : Nat) (a b : Entry)
    (rounds : Rounds) : Except Failure GameResult × List Record :=
  let names : List Log.Attr := [("a", .text a.name), ("b", .text b.name)]
  let start := Log.newSpan none none span
    [.text "a", .text a.name, .text "b", .text b.name]
  match play interrupts a.program b.program rounds with
  | .error failure =>
    (.error (if failure.isCrash then failure else failure.withSpan span), [start])
  | .ok result =>
    let score : List Log.Attr :=
      [("result", .ofGame result), ("duration", .duration elapsed)]
    let last : Record :=
      { level := .info, message := "game end", attrs := names ++ score,
        span := some span }
    (.ok result, start :: result.rounds.toList.map (roundRecord span) ++ [last])

end Game

namespace Tournament

/-- The record of a reported game. -/
def gameRecord (span : Log.Span) (g : GameRecord) : Record :=
  { level := .info
    message := "game"
    attrs := [("a", .text g.a), ("b", .text g.b), ("result", .ofGame g.result)]
    span := some span }

/-- Plays a tournament in a span of its own, with at most `parallelism` games at a
time. -/
def playLogged (canceled : Bool) (span : Log.Span) (parallelism : Int)
    (entries : List Entry) (rounds : Rounds) (report : Report) : Outcome × List Record :=
  let start := Log.newSpan none none span
    [.text "entries", .int entries.length, .text "parallelism", .int parallelism]
  let outcome := play canceled parallelism entries rounds report
  let games := outcome.games.map (gameRecord span)
  match outcome.standings with
  | .error failure =>
    let failure := if failure.isCrash then failure else failure.withSpan span
    ({ outcome with standings := .error failure }, start :: games)
  | .ok _ =>
    let last : Record :=
      { level := .info, message := "tournament end", attrs := [], span := some span }
    (outcome, start :: games ++ [last])

end Tournament

end TapeDuel
