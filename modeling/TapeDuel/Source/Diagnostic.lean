import TapeDuel.Source.Position

/-!
# What can be wrong with a source

A diagnostic names what is wrong, the bracket that shows it and the place of that
bracket. Its message has a header with the place; if the source is known and has that
line, the line follows and under it a caret. The text before the caret has a tab
wherever the line has one and spaces else, so the caret stands under the bracket
however wide tabs are.
-/

namespace TapeDuel

/-- The two kinds of brackets. -/
inductive Bracket where
  | square
  | round
deriving DecidableEq, Repr

namespace Bracket

/-- The name of a kind of brackets. -/
def name : Bracket → String
  | square => "square"
  | round => "round"

/-- The opening bracket. -/
def opener : Bracket → Char
  | square => '['
  | round => '('

/-- The closing bracket. -/
def closer : Bracket → Char
  | square => ']'
  | round => ')'

/-- The other kind. -/
def other : Bracket → Bracket
  | square => round
  | round => square

end Bracket

/-- A source text under the name it is reported with. -/
structure Source where
  name : String
  text : Text
deriving DecidableEq, Repr

/-- What is wrong. -/
inductive Complaint where
  /-- An opening bracket is never closed. -/
  | unclosed
  /-- A closing bracket has no opener. -/
  | unopened
  /-- A closing bracket meets an opener of the other kind, which stands at `openedAt`. -/
  | mismatched (openedAt : Position)
  /-- A round bracket is closed without a `*` right behind it. -/
  | missingDelimiter
  /-- No number up to `2^63 - 1` stands behind `)*`. -/
  | badCount
  /-- Anything else, in its own words. -/
  | other (text : String)
deriving DecidableEq, Repr

/-- One complaint about one bracket of a source. -/
structure Diagnostic where
  complaint : Complaint
  /-- The bracket at fault; a diagnostic made by hand may leave it out. -/
  bracket : Option Bracket
  position : Position
  source : Option Source
deriving DecidableEq, Repr

namespace Diagnostic

/-- The bracket that the wording uses: square when none is given. -/
def wordedBracket (d : Diagnostic) : Bracket :=
  d.bracket.getD .square

/-- What is wrong, without the place. -/
def summary (d : Diagnostic) : String :=
  let bracket := d.wordedBracket
  match d.complaint with
  | .unclosed => s!"unmatched opening bracket: '{bracket.opener}' is never closed"
  | .unopened => s!"unmatched closing bracket: '{bracket.closer}' has no opener"
  | .mismatched openedAt =>
    s!"mismatched bracket kind: '{bracket.closer}' closes "
      ++ s!"'{bracket.other.opener}' opened at {openedAt.describe}"
  | .missingDelimiter => "missing loop delimiter: ')' must be followed by '*'"
  | .badCount =>
      "invalid or missing iteration count: ')*' must be followed by a decimal number"
  | .other text => text

/-- The name that the place is reported under. -/
def sourceName (d : Diagnostic) : String :=
  match d.source with
  | some source => if source.name = "" then "<source>" else source.name
  | none => "<source>"

/-- The first line of a message. -/
def header (d : Diagnostic) : String :=
  s!"{d.summary} at {d.sourceName}:{d.position.describe}"

/-- The blank text under the runes before a caret: tabs stay tabs. -/
def indentation (runes : List Text) : Text :=
  runes.map fun rune => if rune = [Text.byte '\t'] then Text.byte '\t' else Text.byte ' '

/-- The caret line for a column of a line. -/
def caretLine (line : Text) (column : Int) : Text :=
  indentation (line.runes.take (column - 1).toNat) ++ [Text.byte '^']

/-- The line of the source that a diagnostic is about, if there is one. -/
def sourceLine? (d : Diagnostic) : Option Text :=
  match d.source with
  | some source =>
    if 1 ≤ d.position.line then source.text.lines[(d.position.line - 1).toNat]? else none
  | none => none

/-- The whole message. -/
def message (d : Diagnostic) : Text :=
  match d.sourceLine? with
  | none => d.header
  | some line =>
    d.header ++ [Text.byte '\n'] ++ line ++ [Text.byte '\n']
      ++ caretLine line d.position.column

end Diagnostic

end TapeDuel
