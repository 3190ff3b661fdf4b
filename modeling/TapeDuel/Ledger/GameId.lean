import TapeDuel.Number.Floating
import TapeDuel.Text.Quoted

/-!
# Identifiers of games

A recorded game is known by a number of 128 bits, drawn at random when the game is
recorded. It is written as 32 hexadecimal digits in five groups. Reading also takes
the digits without groups, the groups between a pair of braces, and the groups behind
a prefix that says what they are.
-/

namespace TapeDuel

/-- The identifier of a game. -/
structure GameId where
  value : Nat
deriving DecidableEq, Repr

namespace GameId

/-- How many digits each group has. -/
def groups : List Nat :=
  [8, 4, 4, 4, 12]

/-- Cuts a text into pieces of the given lengths. -/
def cut : List Nat → Text → List Text
  | [], _ => []
  | n :: ns, t => t.take n :: cut ns (t.drop n)

/-- An identifier as it is written. -/
def write (id : GameId) : Text :=
  Text.intercalate "-" (cut groups (Text.hexadecimal 32 id.value))

/-- An identifier as it is written, as a string. -/
def describe (id : GameId) : String :=
  id.write.toString?.getD ""

/-- Why a text is no identifier. -/
inductive Flaw where
  | length (bytes : Nat)
  | urnPrefix (found : Text)
  | format
deriving DecidableEq, Repr

/-- The flaw in words. -/
def Flaw.message : Flaw → Text
  | .length bytes => Text.ofString s!"invalid UUID length: {bytes}"
  | .urnPrefix found => Text.ofString "invalid urn prefix: " ++ found.quote
  | .format => Text.ofString "invalid UUID format"

/-- The number that hexadecimal digits spell. -/
def ofDigits (digits : Text) : Except Flaw GameId :=
  match digits.mapM (Number.digitValue? 16) with
  | some values => .ok ⟨values.foldl (fun n d => 16 * n + d) 0⟩
  | none => .error .format

/-- The places of the marks between the groups. -/
def marks : List Nat :=
  [8, 13, 18, 23]

/-- The identifier written in groups at the start of a text. -/
def ofGroups (t : Text) : Except Flaw GameId :=
  let t := t.take 36
  if marks.all fun i => t[i]? = some (Text.byte '-') then
    ofDigits ((t.zipIdx.filter fun (_, i) => i ∉ marks).map Prod.fst)
  else .error .format

/-- Reads an identifier. What a pair of braces would be is not looked at. -/
def read (t : Text) : Except Flaw GameId :=
  if t.length = 36 then ofGroups t
  else if t.length = 45 then
    if (t.take 9).map Number.lower = Text.ofString "urn:uuid:" then ofGroups (t.drop 9)
    else .error (.urnPrefix (t.take 9))
  else if t.length = 38 then ofGroups (t.drop 1)
  else if t.length = 32 then ofDigits t
  else .error (.length t.length)

end GameId

end TapeDuel
