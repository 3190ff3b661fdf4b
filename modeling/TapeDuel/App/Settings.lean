import TapeDuel.App.Options
import TapeDuel.Config.Describe
import TapeDuel.Config.Loader
import TapeDuel.Config.Precedence
import TapeDuel.Match.Rounds

/-!
# The settings in effect

A setting is given on the command line, else in a configuration file, else it has a
default. The files are looked for in the working directory, in the directory of the
user's configuration, and in that of the machine.
-/

namespace TapeDuel.App

open Config (Loader Setting)
open Log (Record)

/-- What a configuration file may say. -/
def configSchema : Text :=
  "max_steps?:       int & >=1
min_tape_length?: int & >=2
max_tape_length?: int & >=2
parallelism?:     int & >=1
ledger?:          string
proxy_addr?:      string
"

/-- The names of configuration files. -/
def configNames : List String :=
  ["joust.cue", ".joust.cue"]

/-- The configuration files of some directories, those that exist. -/
def configPaths (directories : List String) (exists_ : String → Bool) : List String :=
  (directories.flatMap fun d => configNames.map fun n => s!"{d}/{n}").filter exists_

/-- The loader of the configuration files, and the record of having found some. -/
def configLoader (paths : List String) (read : String → Except FileFlaw Text) :
    Loader × List Record :=
  let loader : Loader := ⟨paths.map fun path => (path, read path), configSchema⟩
  let found : Record :=
    { level := .info
      message := "config file"
      attrs := [("paths", .list (paths.map fun (path : String) => .text path))] }
  (loader, if paths.isEmpty then [] else [found])

/-- A number from the flag, the files or the default, in this order. -/
def chooseInt (loader : Loader) (flag : Int) (path : String) (default : Int) :
    Except Failure Int := do
  let filed ← loader.first Config.Value.toInt? 0 path
  return firstGiven 0 [flag, filed, default]

/-- A text from the flag or the files, in this order. -/
def chooseText (loader : Loader) (flag : String) (path : String) :
    Except Failure Text := do
  let filed ← loader.first Config.Value.toText? [] path
  return firstGiven [] [Text.ofString flag, filed]

/-- The steps of a round. -/
def maxSteps (o : Options) (loader : Loader) : Except Failure Int :=
  chooseInt loader o.maxSteps "max_steps" Rounds.completeMaxSteps.toInt

/-- The number of games played at once; by default that of the machine's processors. -/
def parallelism (o : Options) (loader : Loader) (processors : Nat) :
    Except Failure Int :=
  chooseInt loader o.parallel "parallelism" processors

/-- The path of the ledger; empty if there is none. -/
def ledgerPath (o : Options) (loader : Loader) : Except Failure Text :=
  chooseText loader o.ledger "ledger"

/-- The shortest and the longest tape. A range without tapes ends the program. -/
def tapeRange (o : Options) (loader : Loader) : Except Failure (Int × Int) := do
  let min ← chooseInt loader o.minTape "min_tape_length" Rounds.minTapeLength.toInt
  let max ← chooseInt loader o.maxTape "max_tape_length" Rounds.maxTapeLength.toInt
  if min < 2 || max < min then throw (.crash (.plain s!"bad tape range {min}..{max}"))
  return (min, max)

/-- The rounds of a game, and the record of their choice. -/
def roundSequence (tapes : Int × Int) (maxSteps : Int) : Rounds × Record :=
  (.between (Int64.ofInt tapes.1) (Int64.ofInt tapes.2) (Int64.ofInt maxSteps),
    { level := .debug
      message := "rounds"
      attrs := [("min_tape", .int tapes.1), ("max_tape", .int tapes.2),
        ("max_steps", .int maxSteps)] })

/-- The settings that a game is played with. -/
structure Overview where
  maxSteps : Int
  tapes : Int × Int
  ledger : Text
  rounds : Rounds
  parallelism : Int

/-- The settings in effect, and the record of the choice of rounds. The first that is
wrong counts. -/
def overview (o : Options) (loader : Loader) (processors : Nat) :
    Except Failure (Overview × Record) := do
  let maxSteps ← maxSteps o loader
  let tapes ← tapeRange o loader
  let ledger ← ledgerPath o loader
  let (rounds, chosen) := roundSequence tapes maxSteps
  let parallelism ← parallelism o loader processors
  return ({ maxSteps, tapes, ledger, rounds, parallelism }, chosen)

/-- The setting of the steps of a round. -/
def stepsSetting (maxSteps : Int) : Text × Setting :=
  ("max_steps", .int maxSteps)

/-- The setting of the number of games at once. -/
def parallelismSetting (parallelism : Int) : Text × Setting :=
  ("parallelism", .int parallelism)

/-- The setting of the ledger. -/
def ledgerSetting (path : Text) : Text × Setting :=
  ("ledger", .text path)

/-- The setting of the proxy. -/
def proxySetting (address : Text) : Text × Setting :=
  ("proxy_addr", .text address)

end TapeDuel.App
