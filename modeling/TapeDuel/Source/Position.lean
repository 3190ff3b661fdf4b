import TapeDuel.Text.Basic

/-!
# Places in a source text

A position counts bytes from the start of the text, lines from one, and runes from one
inside the line. `Position.after` is the only way a position moves: past one rune at a
time.
-/

namespace TapeDuel

/-- A place in a source text. -/
structure Position where
  offset : Int
  line : Int
  column : Int
deriving DecidableEq, Repr, Inhabited

namespace Position

/-- The first byte of a text. -/
def start : Position :=
  ⟨0, 1, 1⟩

/-- The place behind a rune that stands at `p`: a newline starts the next line, every
other rune is one column wide. -/
def after (p : Position) (rune : Text) : Position :=
  if rune = [Text.byte '\n'] then ⟨p.offset + rune.length, p.line + 1, 1⟩
  else ⟨p.offset + rune.length, p.line, p.column + 1⟩

/-- A position in messages. -/
def describe (p : Position) : String :=
  s!"{p.line}:{p.column}"

end Position

end TapeDuel
