import TapeDuel.App.Run
import TapeDuel.Ledger.Stored
import TapeDuel.Net.Fetch

/-!
# The program

Reads what a run of the program may look at, does the run, and writes down what came
of it. Everything between reading and writing is `App.run`.
-/

namespace TapeDuel.Main

open App (Job Invocation Options Session Surroundings)

/-! ## Reading -/

/-- The text of some bytes. -/
def textOf (bytes : ByteArray) : Text :=
  bytes.toList

/-- Reads a file. -/
def readFile (path : String) : IO (Except FileFlaw Text) := do
  try
    return .ok (textOf (← IO.FS.readBinFile path))
  catch
    | .noFileOrDirectory .. => return .error .missing
    | .noSuchThing .. => return .error .missing
    | .inappropriateType .. => return .error .isDirectory
    | _ => return .error .notDirectory

/-- The files that a job may look at. -/
def filesOf : Job → List String
  | .check references | .hill references => references
  | .minify reference | .disassemble reference => [reference]
  | .round a b | .fight a b => [a, b]
  | .standings | .games | .replay _ | .config => []

/-- How many games a job may record. -/
def gamesOf : Job → Nat
  | .fight _ _ => 1
  | .hill references => references.length * references.length
  | _ => 0

/-- The directories of configuration files, the strongest first. -/
def directories : IO (List String) := do
  let here := (← IO.currentDir).toString
  let own ←
    match ← IO.getEnv "XDG_CONFIG_HOME", ← IO.getEnv "HOME" with
    | some directory, _ => pure [directory]
    | none, some home => pure [s!"{home}/.config"]
    | none, none => pure []
  return here :: own ++ ["/etc"]

/-- Draws the identifier of a game. -/
def drawId : IO GameId := do
  let high ← IO.rand 0 0xFFFFFFFFFFFF
  let middle ← IO.rand 0 0xFFF
  let low ← IO.rand 0 0x3FFFFFFFFFFFFFFF
  return ⟨((high * 16 + 4) * 0x1000 + middle) * 0x10000000000000000 +
    0x8000000000000000 + low⟩

/-- Draws identifiers of games. -/
def drawIds : Nat → IO (List GameId)
  | 0 => return []
  | n + 1 => do
    let id ← drawId
    return id :: (← drawIds n)

/-- Opens the ledger in a file, which may come into being if it was not there. -/
def openLedger (mode : LedgerMode) (path : String) : IO (Except LedgerFlaw Ledger) := do
  try
    if mode = .create then
      let handle ← IO.FS.Handle.mk path .append
      handle.flush
    match Ledger.Stored.read? (textOf (← IO.FS.readBinFile path)) with
    | some ledger => return .ok ledger
    | none => return .error .notLedger
  catch _ => return .error .noDirectory

/-- The ledger that the settings name, with its place. -/
def findLedger (o : Options) (w : Surroundings) :
    IO (Option (LedgerPlace × Except LedgerFlaw Ledger)) := do
  match App.ledgerPath o w.loader with
  | .error _ => return none
  | .ok path =>
    match path.toString? with
    | none | some "" => return none
    | some path =>
      match LedgerAddress.read path with
      | .error flaw => return some (none, .error flaw)
      | .ok address =>
        match address.file.map fun file => file.toString?.getD path with
        | none => return some (none, .ok .empty)
        | some file => return some (some file, ← openLedger address.mode file)

/-- What a run finds around it, and the ledger it may use. -/
def lookAround (invocation : Invocation) : IO (Surroundings × Shelf) := do
  let o := invocation.options
  let directories ← directories
  let named :=
    invocation.jobs.flatMap filesOf ++ (if o.script = "" then [] else [o.script])
  let configs := directories.flatMap fun d => App.configNames.map fun n => s!"{d}/{n}"
  let files ← (named ++ configs).mapM fun path => return (path, ← readFile path)
  let environment ← Net.proxyVariables.mapM fun name =>
      return (name, (← IO.getEnv name).getD "")
  let ids ← drawIds (invocation.jobs.foldl (fun n job => n + gamesOf job) 0)
  let span ← drawId
  let look (path : String) : Except FileFlaw Text :=
    (files.lookup path).getD (.error .missing)
  let surroundings (ledgerPlace : Except LedgerFlaw LedgerPlace) : Surroundings :=
    { file := look
      isThere := fun path =>
        match look path with
        | .ok _ | .error .isDirectory => true
        | .error _ => false
      directories
      web := Net.fetch fun _ => .error (.plain "no network")
      variable_ := fun name => (environment.lookup name).getD ""
      processors := 1
      span := span.describe
      ids := fun n => ids.getD n ⟨n⟩
      ledgerPlace := fun _ _ => ledgerPlace }
  match ← findLedger o (surroundings (.ok none)) with
  | none => return (surroundings (.ok none), [])
  | some (_, .error flaw) => return (surroundings (.error flaw), [])
  | some (place, .ok ledger) =>
    return (surroundings (.ok place), Shelf.put [] place ledger)

/-! ## Writing -/

/-- Writes a text to a stream. -/
def put (stream : IO.FS.Stream) (t : Text) : IO Unit := do
  stream.write ⟨t.toArray⟩
  stream.flush

/-- Writes ledgers back that have changed. -/
def keepLedgers (before after : Shelf) : IO Unit := do
  for (path, ledger) in after do
    if before.lookup path ≠ some ledger then
      IO.FS.writeBinFile path ⟨(Ledger.Stored.write ledger).toArray⟩

/-- The log lines of a session. -/
def logLines (o : Options) (session : Session) : List Text :=
  let logger : Log.Logger := { threshold := o.logLevel, asData := o.logData }
  logger.lines session.logged.reverse

end TapeDuel.Main

open TapeDuel in
/-- Runs the program on a command line. -/
def main (words : List String) : IO UInt32 := do
  let out ← IO.getStdout
  let err ← IO.getStderr
  match App.readArguments words with
  | .error ending =>
    Main.put err ending.words
    return ending.exitCode.toUInt32
  | .ok invocation =>
    let (surroundings, shelf) ← Main.lookAround invocation
    let (ending, session) := App.run surroundings words { shelf }
    Main.keepLedgers shelf session.shelf
    for line in Main.logLines invocation.options session do
      Main.put err (line ++ [Text.byte '\n'])
    Main.put out session.output
    Main.put err ending.words
    return ending.exitCode.toUInt32
