import TapeDuel.Text.Basic

/-!
# Misspelt names

A name that means nothing may be meant for another one. The nearest one is looked for
by the number of letters that have to be put in, taken out or changed; letter case and
underscores do not count.
-/

namespace TapeDuel.Script.Spelling

/-- A name with small letters and without underscores. -/
def folded (name : Text) : Text :=
  (name.filter (· ≠ Text.byte '_')).map fun b => if 65 ≤ b && b ≤ 90 then b + 32 else b

/-- The next row of distances, for one more letter of a name: `row` holds the
distances of what stands before it to the beginnings of the other name, `left` is the
first one of the next row. -/
def nextRow (b : UInt8) (left : Nat) : Text → List Nat → List Nat
  | c :: rest, corner :: above :: row =>
    let here := min (min (left + 1) (above + 1)) (if b = c then corner else corner + 1)
    left :: nextRow b here rest (above :: row)
  | _, _ => [left]

/-- How many letters two names differ in. -/
def distance (s t : Text) : Nat :=
  let start := List.range (t.length + 1)
  ((s.foldl (fun row b => nextRow b (row.head?.getD 0 + 1) t row) start).getLast?).getD 0

/-- The nearest of some names, the first one if there are several; none if all differ
in half of the letters or more. -/
def nearest? (name : Text) (others : List Text) : Option Text :=
  let name := folded name
  (others.foldl (fun (best : Nat × Option Text) other =>
    let d := distance name (folded other)
    if d < best.1 then (d, some other) else best) ((name.length + 1) / 2, none)).2

end TapeDuel.Script.Spelling
