import TapeDuel.Command.Table
import TapeDuel.Groups

/-!
# Usage texts

The usage text of a table has one line for each command: its names in ascending order,
its arguments, and behind a tab its description. The commands stand in the order of
their first names, and the sub commands of each follow it, one step further in.
Nothing depends on the order of the rows.
-/

namespace TapeDuel

namespace Command

variable {σ ε : Type}

/-- How one argument is shown. -/
def ArgType.shown : ArgType → String
  | .optional of => s!"[{of.sort}]"
  | type => s!"<{type.sort}>"

/-- How the arguments of an action are shown. -/
def Action.shown (action : Action σ ε) : List String :=
  action.params.map ArgType.shown ++ (action.tail.map fun type =>
    s!"<{type.sort}>...").toList

/-- What a line says behind the names. -/
def lineEnd (action : Option (Action σ ε)) (description : String) : String :=
  String.join (((action.map Action.shown).getD []).map (" " ++ ·))
    ++ (if description = "" then "" else "\t" ++ description)

/-- One name of a command, with all that the usage text says about it. -/
structure UsageEntry where
  name : String
  tag : Nat
  lineEnd : String
  /-- The lines of the sub commands. -/
  below : String
deriving DecidableEq, Repr

/-- A command of a table, with all its names. -/
@[ext]
structure UsageBlock where
  tag : Nat
  names : List String
  lineEnd : String
  /-- The lines of the sub commands. -/
  below : String
deriving DecidableEq, Repr

namespace UsageBlock

/-- The command of a group of entries, its names in ascending order. -/
def ofGroup (g : KeyGroup UsageEntry) : UsageBlock where
  tag := g.first.tag
  names := (g.members.map UsageEntry.name).mergeSort fun a b => a ≤ b
  lineEnd := g.first.lineEnd
  below := g.first.below

/-- The name by which a command is listed. -/
def first (b : UsageBlock) : String :=
  b.names.headD ""

/-- The line of a command, and the lines of its sub commands. -/
def text (depth : Nat) (b : UsageBlock) : String :=
  String.join (List.replicate depth "  ") ++ String.intercalate ", " b.names ++ b.lineEnd
    ++ "\n" ++ b.below

end UsageBlock

/-- The commands of a table in the order of their first names. The names of a command are
collected while the entries are gone through. -/
def blocks (entries : List UsageEntry) : List UsageBlock :=
  ((groupsBy UsageEntry.tag entries).map UsageBlock.ofGroup).mergeSort fun b c =>
    b.first ≤ c.first

/-- The lines of one table. -/
def layout (depth : Nat) (entries : List UsageEntry) : String :=
  String.join ((blocks entries).map (UsageBlock.text depth))

mutual

/-- The lines of the sub commands of a command at some depth. -/
def subLines (depth : Nat) : Command σ ε → String
  | mk _ subs _ => layout (depth + 1) (entries (depth + 1) subs)

/-- The entries of the rows that hold a command. -/
def entries (depth : Nat) : List (Row (Command σ ε)) → List UsageEntry
  | [] => []
  | ⟨_, _, none⟩ :: rest => entries depth rest
  | ⟨name, tag, some command⟩ :: rest =>
    ⟨name, tag, lineEnd command.action command.description, subLines depth command⟩
      :: entries depth rest

end

end Command

/-- The names under which every table offers its usage text. -/
def Command.helpNames : List String :=
  ["-h", "help", "-help", "--help"]

/-- The command that shows the usage text. -/
def Command.help {σ ε : Type} (run : σ → Except ε Unit × σ) : Command σ ε :=
  .mk (some ⟨[], none, fun _ => run⟩) [] "print this usage"

/-- The usage text of a table. -/
def CommandTable.usage {σ ε : Type} (table : CommandTable σ ε) : String :=
  Command.layout 0 (Command.entries 0 table)

end TapeDuel
