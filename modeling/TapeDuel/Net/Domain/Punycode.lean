import TapeDuel.Text.Basic

/-!
# Punycode

A label with characters beyond ASCII is written in letters, digits and hyphens: first
its ASCII characters, then a hyphen, and then how far the others lie apart, in
ascending order of the characters. The distances are numbers of changing base, in
which small ones are short.
-/

namespace TapeDuel.Net.Punycode

/-- The first character that is not written as it is. -/
def firstCode : Nat := 128

/-- The largest character. -/
def lastCode : Nat := 0x10FFFF

/-- The largest distance that can be read. -/
def maxDistance : Nat := 0x7FFFFFFF

/-- The bias that numbers start with. -/
def firstBias : Nat := 72

/-- The largest digit that ends a number at the place `k`. -/
def threshold (bias k : Nat) : Nat :=
  if k ≤ bias then 1 else if bias + 26 ≤ k then 26 else k - bias

/-- How often a distance is divided until it is small, and what is left then. -/
def reduce (times : Nat) : Nat → Nat × Nat
  | distance =>
    if 455 < distance then reduce (times + 1) (distance / 35) else (times, distance)
termination_by distance => distance
decreasing_by omega

/-- The bias behind a distance, with `points` characters written so far. -/
def adapt (distance points : Nat) (first : Bool) : Nat :=
  let start := if first then distance / 700 else distance / 2
  let (times, rest) := reduce 0 (start + start / points)
  36 * times + 36 * rest / (rest + 38)

/-- The byte of a digit. -/
def digit (d : Nat) : UInt8 :=
  UInt8.ofNat (if d < 26 then 97 + d else 22 + d)

/-- The digit of a byte. -/
def digit? (b : Nat) : Option Nat :=
  if 97 ≤ b && b ≤ 122 then some (b - 97)
  else if 65 ≤ b && b ≤ 90 then some (b - 65)
  else if 48 ≤ b && b ≤ 57 then some (b - 22)
  else none

/-! ## Writing -/

/-- A distance in digits from the place `k` on. Every digit makes it smaller, so
`rounds` may be the distance. -/
def writeNumber (bias : Nat) : Nat → Nat → Nat → Text
  | 0, _, q => [digit q]
  | rounds + 1, k, q =>
    let t := threshold bias k
    if q < t then [digit q]
    else digit (t + (q - t) % (36 - t)) :: writeNumber bias rounds (k + 36)
      ((q - t) / (36 - t))

/-- How far writing has come. -/
structure Writer where
  out : Text
  distance : Nat
  bias : Nat
  /-- The number of characters that are written. -/
  points : Nat

/-- Passes one character of the label while the character `code` is written. -/
def Writer.pass (basic code : Nat) (w : Writer) (c : Nat) : Writer :=
  if c < code then { w with distance := w.distance + 1 }
  else if c = code then
    { out := w.out ++ writeNumber w.bias w.distance 36 w.distance
      distance := 0
      bias := adapt w.distance (w.points + 1) (w.points = basic)
      points := w.points + 1 }
  else w

/-- Writes all of the characters `codes`, of which `before` is the last one that is
written. -/
def writeAll (label : List Nat) (basic : Nat) : List Nat → Nat → Writer → Writer
  | [], _, w => w
  | code :: rest, next, w =>
    let w := { w with distance := w.distance + (code - next) * (w.points + 1) }
    let w := label.foldl (Writer.pass basic code) w
    writeAll label basic rest (code + 1) { w with distance := w.distance + 1 }

/-- A label in letters, digits and hyphens. -/
def encode (label : List Nat) : Text :=
  let basic := label.filter (· < firstCode)
  let others := (label.filter (firstCode ≤ ·)).mergeSort (· ≤ ·)
  let start : Text :=
    basic.map UInt8.ofNat ++ if basic.isEmpty then [] else [Text.byte '-']
  let w := writeAll label basic.length others.eraseReps firstCode
    ⟨[], 0, firstBias, basic.length⟩
  start ++ w.out

/-! ## Reading -/

/-- The distance at the start of digits, from the place `k` and the weight `weight`
on, added to `sum`; and what follows it. -/
def readNumber (bias : Nat) (k weight sum : Nat) : List Nat → Option (Nat × List Nat)
  | [] => none
  | b :: rest =>
    match digit? b with
    | none => none
    | some d =>
      let sum := sum + d * weight
      let t := threshold bias k
      if maxDistance < sum then none
      else if d < t then some (sum, rest)
      else if maxDistance < weight * (36 - t) then none
      else readNumber bias (k + 36) (weight * (36 - t)) sum rest

/-- Puts all characters into a label whose digits are given. Every round takes at
least one of them. -/
def readAll (rounds : Nat) (out : List Nat) (i code bias : Nat) (digits : List Nat) :
    Option (List Nat) :=
  match rounds, digits with
  | _, [] => some out
  | 0, _ => none
  | rounds + 1, digits =>
    match readNumber bias 36 1 i digits with
    | none => none
    | some (sum, rest) =>
      let points := out.length + 1
      let code := code + sum / points
      let place := sum % points
      if lastCode < code then none
      else
        readAll rounds (out.take place ++ code :: out.drop place) (place + 1) code
          (adapt (sum - i) points (i = 0)) rest

/-- The label that is written in letters, digits and hyphens. -/
def decode? (label : List Nat) : Option (List Nat) :=
  let hyphen := Text.byte '-' |>.toNat
  let digits := (label.reverse.takeWhile (· ≠ hyphen)).reverse
  let basic := label.take (label.length - digits.length)
  if basic = [hyphen] then none
  else readAll digits.length basic.dropLast 0 firstCode firstBias digits

end TapeDuel.Net.Punycode
