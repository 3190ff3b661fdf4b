import TapeDuel.Net.Domain.CompositionData

/-!
# Composing characters

A letter with marks can be written in several ways. In the normal form the marks stand
in order, and what can be written as one character is. The syllables of Hangul are
composed by counting.
-/

namespace TapeDuel.Net.Domain

/-- The class of a mark; letters have the class zero. -/
def combiningClass (code : Nat) : Nat :=
  (Packed.classOf? code combiningClasses).getD 0

/-- The class of the marks that silence a vowel. -/
def viramaClass : Nat := 9

/-! ## Hangul -/

/-- The first of the composed syllables. -/
def syllableBase : Nat := 0xAC00

/-- The number of composed syllables. -/
def syllableCount : Nat := 11172

/-- The letters that a syllable is made of. -/
def syllableParts (code : Nat) : List Nat :=
  let n := code - syllableBase
  let last := n % 28
  [0x1100 + n / 588, 0x1161 + n % 588 / 28] ++ if last = 0 then [] else [0x11A7 + last]

/-- The syllable of two letters, or of a syllable and its last letter. -/
def syllable? (a b : Nat) : Option Nat :=
  if 0x1100 ≤ a && a < 0x1113 && 0x1161 ≤ b && b < 0x1176 then
    some (syllableBase + ((a - 0x1100) * 21 + (b - 0x1161)) * 28)
  else if syllableBase ≤ a && a < syllableBase + syllableCount
      && (a - syllableBase) % 28 = 0 && 0x11A7 < b && b < 0x11C3 then
    some (a + (b - 0x11A7))
  else none

/-! ## Letters with marks -/

/-- The character of a pair. -/
def composite? (a b : Nat) : Option Nat :=
  match syllable? a b with
  | some code => some code
  | none => search composites
where
  /-- Looks for the pair in a table. -/
  search : List Nat → Option Nat
    | x :: y :: code :: rest => if x = a && y = b then some code else search rest
    | _ => none

/-- The pair that a character is made of. -/
def parts? (code : Nat) : List Nat → Option (Nat × Nat)
  | x :: y :: c :: rest => if c = code then some (x, y) else parts? code rest
  | _ => none

/-- The largest number of marks in one character. -/
def maxMarks : Nat := 4

/-- A character taken apart, at most `depth` times. -/
def decompose (depth code : Nat) : List Nat :=
  if syllableBase ≤ code && code < syllableBase + syllableCount then syllableParts code
  else
    match depth, parts? code composites with
    | depth + 1, some (x, y) => decompose depth x ++ [y]
    | _, _ => [code]

/-- Puts a mark behind those before it that are not of a higher class. -/
def insertMark (code : Nat) : List Nat → List Nat
  | [] => [code]
  | c :: rest =>
    if combiningClass code < combiningClass c then code :: c :: rest
    else c :: insertMark code rest

/-- Puts the marks behind every letter in order; `marks` are those since the last
letter. -/
def sortMarks (marks : List Nat) : List Nat → List Nat
  | [] => marks
  | c :: rest =>
    if combiningClass c = 0 then marks ++ c :: sortMarks [] rest
    else sortMarks (insertMark c marks) rest

/-- Composes a letter with what follows it; `kept` are the marks between them that
could not be composed. -/
def composeFrom (letter : Nat) (kept : List Nat) : List Nat → List Nat
  | [] => letter :: kept
  | c :: rest =>
    let weight := combiningClass c
    let blocked := kept.getLast?.any fun m => weight = 0 || weight ≤ combiningClass m
    match if blocked then none else composite? letter c with
    | some code => composeFrom code kept rest
    | none =>
      if weight = 0 then letter :: kept ++ composeFrom c [] rest
      else composeFrom letter (kept ++ [c]) rest

/-- The normal form of a name. -/
def normal (codes : List Nat) : List Nat :=
  match sortMarks [] (codes.flatMap (decompose maxMarks)) with
  | [] => []
  | c :: rest => composeFrom c [] rest

end TapeDuel.Net.Domain
