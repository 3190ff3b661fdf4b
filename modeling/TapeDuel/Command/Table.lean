import TapeDuel.Command.Argument

/-!
# Command tables

A command has an action over some state, or sub commands, or both. A table knows
commands by name. One command may have several names, so each row of a table carries a
tag that tells which command it means: the names of one command share one tag.
-/

namespace TapeDuel

/-- One name in a table of commands. A row may hold its place without a command. -/
structure Row (κ : Type) where
  name : String
  tag : Nat
  command : Option κ

namespace Command

/-- What a command does with its arguments: to the state `σ`, perhaps failing with an
`ε`. -/
structure Action (σ ε : Type) where
  /-- The arguments that take one word each. -/
  params : List ArgType
  /-- The type of the arguments behind those, if there may be any number of them. -/
  tail : Option ArgType
  run : List Arg → σ → Except ε Unit × σ

end Command

/-- A command over the state `σ`. -/
inductive Command (σ ε : Type) where
  | mk (action : Option (Command.Action σ ε)) (subs : List (Row (Command σ ε)))
    (description : String)

namespace Command

variable {σ ε : Type}

/-- The action of a command. -/
def action : Command σ ε → Option (Action σ ε)
  | mk action _ _ => action

/-- The sub commands of a command. -/
def subs : Command σ ε → List (Row (Command σ ε))
  | mk _ subs _ => subs

/-- What the usage text says about a command. -/
def description : Command σ ε → String
  | mk _ _ description => description

end Command

/-- A table of commands. -/
abbrev CommandTable (σ ε : Type) := List (Row (Command σ ε))

namespace CommandTable

variable {σ ε : Type}

/-- The row of a name. -/
def find? (table : CommandTable σ ε) (name : String) : Option (Row (Command σ ε)) :=
  List.find? (fun row => row.name == name) table

/-- Whether a word, blanks around it aside, names a command. -/
def names (table : CommandTable σ ε) (word : String) : Bool :=
  (table.find? (trimBlanks word)).isSome

/-- A tag that no row has. -/
def freshTag (table : CommandTable σ ε) : Nat :=
  table.foldl (fun tag row => max tag (row.tag + 1)) 0

/-- Adds rows of one tag; the error is the first name that is taken. -/
def addNames (command : Command σ ε) (tag : Nat) :
    List String → CommandTable σ ε → Except String (CommandTable σ ε)
  | [], table => .ok table
  | name :: rest, table =>
    match table.find? name with
    | some _ => .error name
    | none => addNames command tag rest (table ++ [⟨name, tag, some command⟩])

/-- Adds a command under its names; the error is the first name that is taken. -/
def define (table : CommandTable σ ε) (names : List String) (command : Command σ ε) :
    Except String (CommandTable σ ε) :=
  addNames command table.freshTag names table

end CommandTable

end TapeDuel
