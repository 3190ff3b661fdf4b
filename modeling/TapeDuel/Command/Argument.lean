import TapeDuel.Number.Floating
import TapeDuel.Text.Blank
import TapeDuel.Text.Quoted

/-!
# Arguments of commands

A command declares the types of its arguments, and each argument is read from one
word. An optional argument may be missing; every other one needs its word. Some types
can be declared although no word spells a value of them.
-/

namespace TapeDuel.Command

/-- The type of an argument. -/
inductive ArgType where
  | bool
  | string
  /-- A signed number, of the native width if none is given. -/
  | int (width : Option Nat)
  /-- An unsigned number, of the native width if none is given. -/
  | uint (width : Option Nat)
  | float (format : FloatFormat)
  | optional (of : ArgType)
  /-- A type of the given name and sort that no word spells. -/
  | other (name sort : String)
deriving DecidableEq, Repr

/-- The value of an argument. -/
inductive Arg where
  | bool (value : Bool)
  | text (value : String)
  | number (value : Int)
  | float (format : FloatFormat) (bits : Nat)
  | optional (value : Option Arg)
  | many (values : List Arg)
  /-- The empty value of a type that no word spells. -/
  | nothing
deriving Repr

/-- Why a word is not read. -/
inductive ArgFlaw where
  /-- The word spells no number of the type. -/
  | number (word : String) (type : ArgType) (flaw : NumberFlaw)
  /-- No word spells a value of the type. -/
  | unsupported (type : ArgType)
deriving DecidableEq, Repr

namespace ArgType

/-- The name of a number type of some width. -/
def sized (stem : String) (width : Option Nat) : String :=
  match width with
  | some n => s!"{stem}{n}"
  | none => stem

/-- The sort of a type. -/
def sort : ArgType → String
  | bool => "bool"
  | string => "string"
  | int width => sized "int" width
  | uint width => sized "uint" width
  | float format => if format = .single then "float32" else "float64"
  | optional _ => "ptr"
  | other _ sort => sort

/-- The name of a type. -/
def name : ArgType → String
  | optional of => s!"*{of.name}"
  | other name _ => name
  | type => type.sort

/-- The value an argument has before a word is read. -/
def zero : ArgType → Arg
  | bool => .bool false
  | string => .text ""
  | int _ | uint _ => .number 0
  | float format => .float format 0
  | optional _ => .optional none
  | other _ _ => .nothing

end ArgType

/-- The words that stand for true, in small letters. -/
def trueWords : List String :=
  ["true", "t", "yes", "y", "on", "1"]

/-- Whether a word stands for true; all others stand for false. -/
def readBool (word : String) : Bool :=
  ((trimBlanks word).map Char.toLower) ∈ trueWords

/-- Reads one word as a value of the type. -/
def ArgType.read (type : ArgType) (word : String) : Except ArgFlaw Arg :=
  match type with
  | bool => .ok (.bool (readBool word))
  | string => .ok (.text word)
  | int width =>
    match Number.readSigned (width.getD 64) word with
    | .ok n => .ok (.number n)
    | .error flaw => .error (.number word (.int width) flaw)
  | uint width =>
    match Number.readUnsigned (width.getD 64) word with
    | .ok n => .ok (.number n)
    | .error flaw => .error (.number word (.uint width) flaw)
  | float format =>
    match Number.readFloat format word with
    | .ok bits => .ok (.float format bits)
    | .error flaw => .error (.number word (.float format) flaw)
  | optional of => (of.read word).map fun value => .optional (some value)
  | other name sort => .error (.unsupported (.other name sort))

namespace ArgFlaw

/-- What a number type is called, and the reader that speaks in its errors. -/
def reader : ArgType → String × String
  | .uint _ => ("unsigned int", "ParseUint")
  | .float _ => ("float", "ParseFloat")
  | _ => ("int", "ParseInt")

/-- The flaw in words. -/
def message : ArgFlaw → Text
  | number word type flaw =>
    let (called, reads) := reader type
    Text.ofString s!"convert {word} to {called}: strconv.{reads}: parsing "
      ++ Text.quote word ++ Text.ofString s!": {flaw.describe}"
  | unsupported type => Text.ofString s!"unsupported type: {type.name}"

end ArgFlaw

end TapeDuel.Command
