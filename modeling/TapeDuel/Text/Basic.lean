/-!
# Byte texts and their runes

Bot sources come from disk and from the network, so nothing guarantees that they are
well-formed UTF-8. A `Text` is therefore a list of bytes. Where characters matter, a
text is cut into *runes*: each well-formed UTF-8 sequence is one rune, and every byte
that starts none is a rune of its own. Cutting loses nothing, whatever the bytes are.
-/

namespace TapeDuel

/-- A text as the bytes that are stored and printed. -/
abbrev Text := List UInt8

/-- The bytes of a string. -/
def Text.ofString (s : String) : Text :=
  s.toUTF8.toList

instance : Coe String Text := ⟨Text.ofString⟩

namespace Text

/-- The string a text spells, if it is well-formed UTF-8. -/
def toString? (t : Text) : Option String :=
  String.fromUTF8? ⟨t.toArray⟩

/-- The byte of an ASCII character. -/
def byte (c : Char) : UInt8 :=
  c.toUInt8

/-- Continuation bytes are those from `80` to `BF`. -/
def isContinuation (b : UInt8) : Bool :=
  0x80 ≤ b && b ≤ 0xBF

/-- What the byte after a leading byte may be. The ranges leave out overlong forms,
the surrogates and everything above the last code point. -/
def secondRange (lead : UInt8) : UInt8 × UInt8 :=
  if lead = 0xE0 then (0xA0, 0xBF)
  else if lead = 0xED then (0x80, 0x9F)
  else if lead = 0xF0 then (0x90, 0xBF)
  else if lead = 0xF4 then (0x80, 0x8F)
  else (0x80, 0xBF)

/-- Whether `second` may follow `lead` inside one rune. -/
def mayFollow (lead second : UInt8) : Bool :=
  (secondRange lead).1 ≤ second && second ≤ (secondRange lead).2

/-- The number of bytes of the rune that starts with `lead` and is followed by `rest`:
two to four for a well-formed sequence, else one. -/
def runeWidth (lead : UInt8) (rest : Text) : Nat :=
  if 0xC2 ≤ lead && lead ≤ 0xDF then
    match rest with
    | b :: _ => if mayFollow lead b then 2 else 1
    | _ => 1
  else if 0xE0 ≤ lead && lead ≤ 0xEF then
    match rest with
    | b :: c :: _ => if mayFollow lead b && isContinuation c then 3 else 1
    | _ => 1
  else if 0xF0 ≤ lead && lead ≤ 0xF4 then
    match rest with
    | b :: c :: d :: _ =>
      if mayFollow lead b && isContinuation c && isContinuation d then 4 else 1
    | _ => 1
  else 1

/-- The runes of a text whose first `skip` bytes belong to a rune already taken. -/
def runesFrom (skip : Nat) : Text → List Text
  | [] => []
  | b :: rest =>
    match skip with
    | 0 =>
      let more := runeWidth b rest - 1
      (b :: rest.take more) :: runesFrom more rest
    | k + 1 => runesFrom k rest

/-- The runes of a text, in order. -/
def runes (t : Text) : List Text :=
  runesFrom 0 t

theorem flatten_runesFrom (skip : Nat) (t : Text) :
    (runesFrom skip t).flatten = t.drop skip := by
  induction t generalizing skip with
  | nil => simp [runesFrom]
  | cons b rest ih =>
    cases skip with
    | zero => simp [runesFrom, ih, List.take_append_drop]
    | succ k => simp [runesFrom, ih]

/-- Cutting a text into runes loses nothing. -/
theorem flatten_runes (t : Text) : t.runes.flatten = t := by
  simp [runes, flatten_runesFrom]

/-- The pieces between the bytes `sep`, always one more than there are such bytes. -/
def splitOn (sep : UInt8) : Text → List Text
  | [] => [[]]
  | b :: rest =>
    if b = sep then [] :: splitOn sep rest
    else
      match splitOn sep rest with
      | [] => [[b]]
      | piece :: pieces => (b :: piece) :: pieces

/-- The lines of a text: the pieces between its newlines. -/
def lines (t : Text) : List Text :=
  t.splitOn (byte '\n')

/-- Texts joined with a separator between each two. -/
def intercalate (sep : Text) (ts : List Text) : Text :=
  List.intercalate sep ts

end Text

end TapeDuel
