import TapeDuel.Text.Basic

/-!
# Blank characters

What counts as blank around a word: the ASCII blanks, the next-line and no-break
characters and the spaces of every width.
-/

namespace TapeDuel

/-- Whether a character is blank. -/
def isBlank (c : Char) : Bool :=
  c ∈ ['\t', '\n', '\x0b', '\x0c', '\r', ' ', '\u0085', '\u00a0', '\u1680',
    '\u2028', '\u2029', '\u202f', '\u205f', '\u3000'] || ('\u2000' ≤ c && c ≤ '\u200a')

/-- A word without the blanks before and after it. -/
def trimBlanks (word : String) : String :=
  String.ofList
    ((word.toList.dropWhile isBlank).reverse.dropWhile isBlank).reverse

end TapeDuel
