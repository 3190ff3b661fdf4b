import TapeDuel.Net.Domain.ClassData
import TapeDuel.Net.Domain.Composition
import TapeDuel.Net.Domain.Mapping
import TapeDuel.Text.Quoted

/-!
# Labels of domain names

The parts between the dots of a domain name follow rules: hyphens stand inside, a mark
needs a letter before it, invisible joiners stand only where they change what is seen,
and where one label is written from right to left, every label keeps to one direction.
-/

namespace TapeDuel.Net.Domain

/-- The bytes of characters. -/
def textOf (codes : List Nat) : Text :=
  codes.flatMap Text.ofCodePoint

/-- Whether the character is a mark. -/
def isMark (code : Nat) : Bool :=
  (Packed.classOf? code markRanges).isSome

/-- Whether the character is a mark that takes no place of its own. -/
def isBareMark (code : Nat) : Bool :=
  Packed.classOf? code markRanges = some 0

/-- Whether the hyphens of a label stand where they may. -/
def hyphensFit (label : Text) : Bool :=
  let hyphen := some (Text.byte '-')
  !(4 < label.length && label[2]? = hyphen && label[3]? = hyphen)
    && label.head? ≠ hyphen && label.getLast? ≠ hyphen

/-! ## Joiners -/

/-- The joiner that asks for a joined form. -/
def joiner : Nat := 0x200D

/-- The joiner that asks for separate forms. -/
def separator : Nat := 0x200C

/-- What the characters up to a place say about joiners. -/
inductive Joined where
  | nothing
  /-- A vowel was silenced. -/
  | silenced
  /-- A letter stands there that joins what follows. -/
  | before
  /-- Such a letter stands there, and a vowel was silenced behind it. -/
  | silencedBefore
  /-- A separator stands behind such a letter; one that joins what stands before it
  has to follow. -/
  | after
  | failed
deriving DecidableEq, Repr

namespace Joined

/-- What is known behind a letter that joins as `sort` says: what follows (0), both
sides (1), what stands before (2). -/
def letter (sort : Nat) : Joined → Joined
  | failed => failed
  | after => if sort = 0 then failed else if sort = 1 then before else nothing
  | _ => if sort = 2 then nothing else before

/-- What is known behind a mark. -/
def mark : Joined → Joined
  | before | silencedBefore => before
  | after => after
  | failed => failed
  | nothing | silenced => nothing

/-- What is known behind a character that joins nothing. -/
def other : Joined → Joined
  | failed => failed
  | _ => nothing

/-- What is known when a vowel is silenced. -/
def silence : Joined → Joined
  | nothing => silenced
  | before => silencedBefore
  | after => after
  | failed => failed
  | silenced | silencedBefore => nothing

/-- What is known behind a joiner: it needs a silenced vowel. -/
def join : Joined → Joined
  | silenced | silencedBefore => nothing
  | _ => failed

/-- What is known behind a separator: it needs a silenced vowel or a letter that
joins. -/
def separate : Joined → Joined
  | silenced | silencedBefore => nothing
  | before => after
  | _ => failed

/-- What is known behind one more character. -/
def next (state : Joined) (code : Nat) : Joined :=
  let moved :=
    if code = joiner then state.join
    else if code = separator then state.separate
    else
      match Packed.classOf? code joiningRanges with
      | some sort => state.letter sort
      | none => if isBareMark code then state.mark else state.other
  if combiningClass code = viramaClass then moved.silence else moved

end Joined

/-- Whether the joiners of a label stand where they change something. -/
def joinersFit (label : List Nat) : Bool :=
  if label.contains joiner || label.contains separator then
    match label.foldl Joined.next .nothing with
    | .failed | .after => false
    | _ => true
  else true

/-! ## Direction -/

/-- How a character takes part in the direction of a label. -/
inductive Direction where
  | leftToRight
  | rightToLeft
  /-- A digit among letters from right to left. -/
  | innerDigit
  | digit
  | neutral
  | mark
deriving DecidableEq, Repr

/-- The direction of a character. -/
def directionOf (code : Nat) : Direction :=
  if isBareMark code then .mark
  else
    match Packed.classOf? code directionRanges with
    | some 1 => .rightToLeft
    | some 2 => .innerDigit
    | some 3 => .digit
    | some _ => .neutral
    | none => .leftToRight

/-- Whether a character makes its name one that is written from right to left. -/
def turnsName (code : Nat) : Bool :=
  directionOf code = .rightToLeft || directionOf code = .innerDigit

/-- Whether a label keeps to one direction: it starts with a letter, has only
characters of the direction of that letter, ends with a letter or a digit before its
marks, and has digits of one sort. -/
def keepsDirection (label : List Nat) : Bool :=
  let directions := label.map directionOf
  let last := directions.reverse.dropWhile (· = .mark)
  match directions, last with
  | .leftToRight :: _, d :: _ =>
    directions.all (fun x => x ≠ .rightToLeft && x ≠ .innerDigit) &&
      (d = .leftToRight || d = .digit)
  | .rightToLeft :: _, d :: _ =>
    directions.all (· ≠ .leftToRight) &&
      (d = .rightToLeft || d = .digit || d = .innerDigit)
      && !(directions.contains .digit && directions.contains .innerDigit)
  | [], _ => true
  | _, _ => false

/-! ## All rules -/

/-- Whether a label follows the rules that concern it alone. -/
def labelFits (label : List Nat) : Bool :=
  label.isEmpty
    || (hyphensFit (textOf label) && !label.head?.any isMark && joinersFit label)

end TapeDuel.Net.Domain
