import TapeDuel.App.Display
import TapeDuel.App.Session
import TapeDuel.Match.Play
import TapeDuel.Script.Inspect
import TapeDuel.Script.Run

/-!
# Jobs

What the program does for each thing that can be asked of it. Games are recorded when
this is asked for, and afterwards their results can be inspected by a script.
-/

namespace TapeDuel.App

open Log (Record)

namespace Surroundings

variable (w : Surroundings) (o : Options)

/-! ## Recording and inspecting -/

/-- The record of a recorded game. -/
def recordedRecord (id : GameId) (g : GameRecord) : Record :=
  { level := .info
    message := "game recorded"
    attrs := [("id", .text id.write), ("a", .text g.a), ("b", .text g.b)] }

/-- Keeps bots, then games under their identifiers. -/
def recordStep (bots : List Bot) (games : List (GameId × GameRecord)) :
    Transaction.Step Unit :=
  Transaction.andThen (Transaction.forEach Transaction.saveBot bots) fun _ =>
    Transaction.andThen
      (Transaction.forEach (fun (id, g) => Transaction.saveGame id g) games)
      fun _ t => (.ok (), t)

/-- Records bots and games, if this is asked for. -/
def recordGames (bots : List Bot) (games : List GameRecord) : Work Unit := do
  if o.record then
    let ids ← Work.takeIds w games.length
    w.withLedger o (recordStep bots (ids.zip games))
    Work.log ((ids.zip games).map fun (id, g) => recordedRecord id g)

/-- The records of a prompt that nobody answers. -/
def tapRecords (what : String) (globals : Script.Globals) : List Record :=
  let names := (globals.map Prod.fst).mergeSort fun a b => a ≤ b
  [{ level := .info
     message := "tap"
     attrs :=
       [("what", .text what),
         ("globals", .list (names.map fun (n : String) => .text n))] },
    { level := .info, message := "tap end", attrs := [("what", .text what)] }]

/-- Runs the script over results, if there is one. -/
def inspect (what : String) (globals : Script.Globals) : Work Unit := do
  if o.script ≠ "" then
    let source ← Work.ofExcept ((w.file o.script).mapError fun flaw =>
      .within "read script" (flaw.failure o.script))
    Work.log [Script.evalRecord o.script]
    let (printed, result) := Script.run o.script source globals
    Work.print printed
    Work.ofExcept result
  if o.tap then Work.log (tapRecords what globals)

/-! ## Looking at bots -/

/-- Loads one bot and reports how it went; tells whether it failed. -/
def checkOne (library : Bot.Library) (reference : String) : Work Bool := do
  let (result, records) := Bot.load library reference
  Work.log records
  match result with
  | .ok bot =>
    Work.printLine s!"{reference}: ok, {bot.program.size} instructions"
    return false
  | .error failure =>
    Work.printLine (Text.ofString s!"{reference}: " ++ failure.message)
    return true

/-- Loads bots and reports on each of them. -/
def check (references : List String) : Work Unit := do
  let library ← w.library o
  let failed ← references.mapM (checkOne library)
  let count := failed.count true
  if 0 < count then throw (.plain s!"{count} of {references.length} bots failed")

/-- Prints the source of a bot without its comments. -/
def printMinified (reference : String) : Work Unit := do
  let bot ← w.loadBot o reference
  let source ← Work.ofExcept ((minify bot.source).mapError .ofDiagnostics)
  Work.printLine source

/-- Prints the program of a bot. -/
def disassemble (reference : String) : Work Unit := do
  let bot ← w.loadBot o reference
  Work.print bot.program.listing

/-! ## Playing -/

/-- The tape length of a round that is played by itself. -/
def usualTape : Int := 10

/-- Plays one round. -/
def playRound (a b : String) : Work Unit := do
  match ← w.loadBots o [a, b] with
  | [botA, botB] =>
    let steps ← Work.ofExcept (maxSteps o w.loader)
    let params : RoundParams :=
      ⟨Int64.ofInt (firstGiven 0 [o.tape, usualTape]), o.invert, Int64.ofInt steps⟩
    let note (arena : Arena) : Option Text :=
      if o.trace then some (traceLine arena) else none
    let (result, notes) ←
      Work.ofExcept ((Round.watch note botA.program botB.program params).mapError
        .badRound)
    notes.reverse.forM Work.printLine
    let arena ← Work.ofExcept (result.mapError .fault)
    Work.print (finishedRound botA.name botB.name params arena)
  | _ => throw .notFound

/-- Plays a game and prints its rounds. -/
def fight (a b : String) : Work Unit := do
  match ← w.loadBots o [a, b] with
  | [botA, botB] =>
    let rounds ← w.rounds o
    let (result, records) := Game.playLogged .never w.span 0 botA.entry botB.entry rounds
    Work.log records
    let result ← Work.ofExcept result
    result.rounds.toList.forM fun r => Work.printLine (roundLine r)
    Work.printLine (gameLine botA.name botB.name result)
    recordGames w o [botA, botB] [⟨botA.name, botB.name, result⟩]
    inspect w o "fight"
      [("a", .ofBot botA), ("b", .ofBot botB), ("result", .ofGame result)]
  | _ => throw .notFound

/-- Plays every pair of bots and prints the standings. -/
def hill (references : List String) : Work Unit := do
  let bots ← w.loadBots o references
  let rounds ← w.rounds o
  let atOnce ← Work.ofExcept (parallelism o w.loader w.processors)
  let (outcome, records) :=
    Tournament.playLogged false w.span atOnce (bots.map Bot.entry) rounds
    fun _ _ => none
  Work.log records
  outcome.games.forM fun g => Work.printLine (gameLine g.a g.b g.result)
  let standings ← Work.ofExcept outcome.standings
  Work.print (standingsTable standings)
  recordGames w o bots outcome.games
  inspect w o "hill"
    [("bots", .list (bots.map .ofBot)),
      ("games", .list (outcome.games.map .ofGameRecord)),
      ("standings", .list (standings.map .ofStanding))]

/-! ## Looking at the ledger -/

/-- Prints the standings over all games of the ledger. -/
def printStandings : Work Unit := do
  let standings ← w.withLedger o Transaction.standings
  Work.print (standingsTable standings)

/-- Reads all games of the ledger back. -/
def allGames : Transaction.Step (List (GameId × GameRecord)) :=
  Transaction.andThen Transaction.gameIds fun ids =>
    Transaction.forEach (fun id =>
      Transaction.andThen (Transaction.loadGame id) fun g t => (.ok (id, g), t)) ids

/-- Lists the games of the ledger. -/
def listGames : Work Unit := do
  let games ← w.withLedger o allGames
  games.forM fun (id, g) => Work.printLine (listedGame id g)

/-- Reads a game and both of its bots back. -/
def recordedGame (id : GameId) : Transaction.Step (GameRecord × Bot × Bot) :=
  Transaction.andThen (Transaction.loadGame id) fun g =>
    Transaction.andThen (Transaction.loadBot g.a) fun a =>
      Transaction.andThen (Transaction.loadBot g.b) fun b t => (.ok (g, a, b), t)

/-- The rounds of a game that was played again, each with the recorded one if they
differ. -/
def compareRounds (played recorded : GameResult) :
    List (RoundRecord × Option RoundRecord) :=
  (played.rounds.toList.zip recorded.rounds.toList).map fun (p, r) =>
    (p, if p = r then none else some r)

/-- The record of a replay. -/
def replayRecord (id : GameId) (rounds mismatched : Nat) : Record :=
  { level := .info
    message := "replay"
    attrs := [("id", .text id.write), ("rounds", .int rounds),
        ("mismatched", .int mismatched)] }

/-- Plays a recorded game again with the bots that are kept, and compares. -/
def replay (idText : String) : Work Unit := do
  let id ← Work.ofExcept ((GameId.read idText).mapError fun flaw =>
    .within s!"game id {idText}" (.plain (flaw.message.toString?.getD "")))
  let (recorded, a, b) ← w.withLedger o (recordedGame id)
  let params := recorded.result.rounds.toList.map RoundRecord.params
  let result ← Work.ofExcept (Game.play .never a.program b.program (.listed params))
  let compared := compareRounds result recorded.result
  compared.forM fun (played, differs) =>
    Work.printLine (roundLine played ++ (differs.map mismatchMark).getD [])
  Work.printLine (gameLine a.name b.name result)
  let mismatched := (compared.filter fun c => c.2.isSome).length
  Work.log [replayRecord id compared.length mismatched]
  if 0 < mismatched then
    throw (.within "replay does not match the recorded game"
      (.plain s!"{mismatched} of {compared.length} rounds differ"))
  inspect w o "replay"
    [("a", .ofBot a), ("b", .ofBot b), ("recorded", .ofGame recorded.result),
      ("result", .ofGame result)]

/-! ## Looking at the configuration -/

/-- Prints the settings in effect. -/
def printConfig : Work Unit := do
  let steps ← Work.ofExcept (maxSteps o w.loader)
  let (least, greatest) ← Work.ofExcept (tapeRange o w.loader)
  let atOnce ← Work.ofExcept (parallelism o w.loader w.processors)
  let ledger ← Work.ofExcept (ledgerPath o w.loader)
  let (proxy, _) ← Work.ofExcept (w.proxy o)
  w.loader.paths.forM fun path => Work.printLine s!"// {path}"
  Work.printLine s!"min_tape_length: {least}\nmax_tape_length: {greatest}"
  Work.print (Config.describe [stepsSetting steps, parallelismSetting atOnce,
    ledgerSetting ledger, proxySetting proxy])

/-- Does a job. -/
def work : Job → Work Unit
  | .check references => check w o references
  | .minify reference => printMinified w o reference
  | .disassemble reference => disassemble w o reference
  | .round a b => playRound w o a b
  | .fight a b => fight w o a b
  | .hill references => hill w o references
  | .standings => printStandings w o
  | .games => listGames w o
  | .replay id => replay w o id
  | .config => printConfig w o

end Surroundings

end TapeDuel.App
