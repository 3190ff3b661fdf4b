import TapeDuel.Command.Table

/-!
# Flags

A flag is a command that changes a setting: a variable takes a value and can be reset,
a switch goes on and off, a collection takes one more value each time.
-/

namespace TapeDuel.Command.Flag

variable {σ ε : Type}

/-- A command that only changes the state. -/
def setter (params : List ArgType) (description : String) (put : List Arg → σ → σ) :
    Command σ ε :=
  .mk (some ⟨params, none, fun args s => (.ok (), put args s)⟩) [] description

/-- The name of a flag without the marks before it. -/
def plainName (name : String) : String :=
  String.ofList (name.toList.dropWhile fun c => c = '-' || c = '!')

/-- The commands of a variable: its name sets it, and its name with a point resets it. -/
def value (name : String) (type : ArgType) (put : Arg → σ → σ) :
    List (String × Command σ ε) :=
  [(name, setter [type] s!"set {plainName name}" fun args => put (args.headD type.zero)),
    (name ++ ".", setter [] s!"reset {plainName name}" fun _ => put type.zero)]

/-- The commands of a switch: its name sets it, and its name behind an exclamation
mark clears it. -/
def switch (name : String) (put : Bool → σ → σ) : List (String × Command σ ε) :=
  [(name, setter [] s!"enable {plainName name}" fun _ => put true),
    ("!" ++ name, setter [] s!"disable {plainName name}" fun _ => put false)]

/-- The command of a collection. -/
def collection (name : String) (type : ArgType) (add : Arg → σ → σ) :
    List (String × Command σ ε) :=
  [(name, setter [type] s!"add {plainName name}" fun args => add (args.headD type.zero))]

/-! ## Values by name -/

/-- The values that flags have been given, by name. -/
abbrev Values := List (String × List Arg)

namespace Values

/-- All values of a name, oldest first. -/
def all (values : Values) (name : String) : List Arg :=
  ((values.find? fun v => v.1 == name).map Prod.snd).getD []

/-- The value of a name, or `zero`. -/
def get (values : Values) (name : String) (zero : Arg) : Arg :=
  (values.all name).headD zero

/-- Gives a name a value in place of its old ones. -/
def put (name : String) (value : Arg) (values : Values) : Values :=
  (name, [value]) :: values.filter fun v => v.1 != name

/-- Gives a name one more value. -/
def add (name : String) (value : Arg) (values : Values) : Values :=
  (name, values.all name ++ [value]) :: values.filter fun v => v.1 != name

end Values

end TapeDuel.Command.Flag
