import TapeDuel.Net.Domain.MappingData

/-!
# Mapping domain names

The characters of a domain name are replaced by those that they stand for, so that
names which differ only in the way they are written become the same.
-/

namespace TapeDuel.Net.Domain

/-- What becomes of a character. -/
inductive Treatment where
  | kept
  | replaced (codes : List Nat)
  | refused
deriving DecidableEq, Repr

/-- The character that stands for one of a run, if it is in one. -/
def shifted? (code : Nat) : List Nat → Option Nat
  | first :: count :: step :: target :: rest =>
    let distance := code - first
    if first ≤ code && distance % step = 0 && distance / step < count then
      some (target + distance)
    else shifted? code rest
  | _ => none

/-- The single character that stands for another one. -/
def substitute? (code : Nat) : List Nat → Option Nat
  | source :: target :: rest =>
      if source = code then some target else substitute? code rest
  | _ => none

/-- The characters that stand for one. -/
def phrase? (code : Nat) : List Nat → Option (List Nat)
  | source :: count :: rest =>
    if source = code then some (rest.take count) else phrase? code (rest.drop count)
  | _ => none
termination_by table => table.length
decreasing_by simp only [List.length_drop, List.length_cons]; omega

/-- What becomes of a character. No table goes beyond five digits: characters above them
are refused. -/
def treat (code : Nat) : Treatment :=
  match shifted? code shifts, substitute? code substitutes, phrase? code phrases with
  | some target, _, _ => .replaced [target]
  | none, some target, _ => .replaced [target]
  | none, none, some targets => .replaced targets
  | none, none, none =>
    if Packed.inRanges code ignored then .replaced []
    else if code > 0xFFFFF || Packed.inRanges code refused then .refused
    else .kept

/-- Whether a character may stand in a domain name as it is. -/
def isValid (code : Nat) : Bool :=
  treat code = .kept

/-- A name with its characters replaced; none if one of them is refused. -/
def mapped? : List Nat → Option (List Nat)
  | [] => some []
  | code :: rest =>
    match treat code, mapped? rest with
    | .kept, some more => some (code :: more)
    | .replaced codes, some more => some (codes ++ more)
    | _, _ => none

end TapeDuel.Net.Domain
