import TapeDuel.Command.Execute
import TapeDuel.Command.Flag
import TapeDuel.Command.Usage
import TapeDuel.Log.Logger

/-!
# The command line

The words of a command line set options and ask for jobs. Nothing is done before all
words are read: a job sees every option, also those behind it.
-/

namespace TapeDuel.App

/-- What the flags set. Zero and the empty text stand for flags that are not given. -/
structure Options where
  maxSteps : Int := 0
  minTape : Int := 0
  maxTape : Int := 0
  parallel : Int := 0
  tape : Int := 0
  ledger : String := ""
  proxy : String := ""
  script : String := ""
  invert : Bool := false
  trace : Bool := false
  record : Bool := false
  tap : Bool := false
  logData : Bool := false
  logLevel : Log.Level := .info
deriving DecidableEq, Repr

/-- What is asked for. -/
inductive Job where
  | check (references : List String)
  | minify (reference : String)
  | disassemble (reference : String)
  | round (a b : String)
  | fight (a b : String)
  | hill (references : List String)
  | standings
  | games
  | replay (id : String)
  | config
deriving DecidableEq, Repr

/-- A command line as far as it was read. -/
structure Invocation where
  options : Options := {}
  /-- The jobs in their order. -/
  jobs : List Job := []
deriving DecidableEq, Repr

/-- A command line may ask for the usage text, and for nothing else then. -/
inductive Stop where
  | usage
deriving DecidableEq, Repr

/-- A command of the program. -/
abbrev Line := Command Invocation Stop

/-! ## Arguments -/

/-- The text of an argument. -/
def textOf : Command.Arg → String
  | .text s => s
  | _ => ""

/-- The number of an argument. -/
def numberOf : Command.Arg → Int
  | .number n => n
  | _ => 0

/-- The texts of a list of arguments. -/
def textsOf : List Command.Arg → List String
  | [.many args] => args.map textOf
  | _ => []

/-! ## Flags -/

/-- Changes the options. -/
def Invocation.set (f : Options → Options) (s : Invocation) : Invocation :=
  { s with options := f s.options }

/-- A flag that takes a number. -/
def numberFlag (name : String) (put : Int → Options → Options) : List (String × Line) :=
  Command.Flag.value name (.int none) fun arg => Invocation.set (put (numberOf arg))

/-- A flag that takes a text. -/
def textFlag (name : String) (put : String → Options → Options) : List (String × Line) :=
  Command.Flag.value name .string fun arg => Invocation.set (put (textOf arg))

/-- A flag that goes on and off. -/
def switchFlag (name : String) (put : Bool → Options → Options) : List (String × Line) :=
  Command.Flag.switch name fun on => Invocation.set (put on)

/-- A flag that sets the log level. -/
def levelFlag (name : String) (level : Log.Level) : String × Line :=
  (s!"-log-{name}", Command.Flag.setter [] s!"set log level to {name}" fun _ =>
    Invocation.set fun o => { o with logLevel := level })

/-- The flags by which settings are given. -/
def settingFlags : List (String × Line) :=
  numberFlag "-max-steps" (fun n o => { o with maxSteps := n })
    ++ numberFlag "-min-tape" (fun n o => { o with minTape := n })
    ++ numberFlag "-max-tape" (fun n o => { o with maxTape := n })
    ++ numberFlag "-parallel" (fun n o => { o with parallel := n })
    ++ textFlag "-ledger" (fun s o => { o with ledger := s })
    ++ textFlag "-proxy" (fun s o => { o with proxy := s })

/-- All flags. -/
def flags : List (String × Line) :=
  settingFlags
    ++ numberFlag "-tape" (fun n o => { o with tape := n })
    ++ switchFlag "-invert" (fun b o => { o with invert := b })
    ++ switchFlag "-trace" (fun b o => { o with trace := b })
    ++ switchFlag "-record" (fun b o => { o with record := b })
    ++ switchFlag "-tap" (fun b o => { o with tap := b })
    ++ textFlag "-script" (fun s o => { o with script := s })
    ++ switchFlag "-log-json" (fun b o => { o with logData := b })
    ++ [levelFlag "debug" .debug, levelFlag "info" .info, levelFlag "warn" .warn,
      levelFlag "error" .error]

/-! ## Jobs -/

/-- A command that asks for a job. -/
def ask (params : List Command.ArgType) (tail : Option Command.ArgType)
    (description : String) (job : List Command.Arg → Job) : Line :=
  .mk (some ⟨params, tail, fun args s =>
    (.ok (), { s with jobs := s.jobs ++ [job args] })⟩) []
    description

/-- The first and the second of a list of arguments. -/
def two (job : String → String → Job) : List Command.Arg → Job
  | [a, b] => job (textOf a) (textOf b)
  | args => job (textOf (args.headD .nothing)) ""

/-- The first of a list of arguments. -/
def one (job : String → Job) (args : List Command.Arg) : Job :=
  job (textOf (args.headD .nothing))

/-- The commands that ask for a job. -/
def jobCommands : List (String × Line) :=
  [("check", ask [] (some .string) "compile bots and report errors" fun args =>
      .check (textsOf args)),
    ("fmt", ask [.string] none "print the minified source of a bot" (one .minify)),
    ("disasm", ask [.string] none "print the compiled program of a bot"
      (one .disassemble)),
    ("round", ask [.string, .string] none "play one round, see -tape -invert -trace"
      (two .round)),
    ("fight", ask [.string, .string] none "play a game over the configured rounds"
      (two .fight)),
    ("hill",
      ask [] (some .string) "play every pair of bots and print the standings" fun args =>
        .hill (textsOf args)),
    ("standings", ask [] none "print the standings of every game in the ledger" fun _ =>
      .standings),
    ("games", ask [] none "list the games in the ledger" fun _ => .games),
    ("replay", ask [.string] none "replay a recorded game with the stored bots"
      (one .replay)),
    ("config", ask [] none "print the effective configuration" fun _ => .config)]

/-- The command table of the program. -/
def table : CommandTable Invocation Stop :=
  let help := Command.helpNames.map fun name =>
    (⟨name, 0, some (Command.help fun s => (.error .usage, s))⟩ : Row Line)
  help ++ (flags ++ jobCommands).zipIdx.map fun ((name, command), i) =>
    ⟨name, i + 1, some command⟩

end TapeDuel.App
