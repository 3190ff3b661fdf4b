import TapeDuel.Engine.Arena

/-!
# The rounds of a game

A game is a sequence of rounds. The usual one goes through a range of tape lengths and
plays each length twice, first with normal and then with inverted polarity. The
lengths are counted in a 64-bit register and compared with the last one, so a range
that ends at the largest number goes round instead of ending; therefore a sequence is
read one element at a time.
-/

namespace TapeDuel

/-- The rounds that are still to be played. -/
inductive Rounds where
  /-- From `next` up to the tape length `last`. -/
  | range (next : RoundParams) (last : Int64)
  /-- Exactly these. -/
  | listed (params : List RoundParams)
deriving DecidableEq, Repr

namespace Rounds

/-- The shortest tape of a complete game. -/
def minTapeLength : Int64 := 10

/-- The longest tape of a complete game. -/
def maxTapeLength : Int64 := 30

/-- The steps of each round of a complete game. -/
def completeMaxSteps : Int64 := 100000

/-- All tape lengths from `min` to `max`, each with both polarities. -/
def between (min max maxSteps : Int64) : Rounds :=
  range ⟨min, false, maxSteps⟩ max

/-- The rounds of a complete game. -/
def complete : Rounds :=
  between minTapeLength maxTapeLength completeMaxSteps

/-- The round after `p` in a range. -/
def successor (p : RoundParams) : RoundParams :=
  if p.inverted then { p with tapeLength := p.tapeLength + 1, inverted := false }
  else { p with inverted := true }

/-- The first round and the rest. A range ends before a length that is above its last;
the inverted round of a length always follows the normal one. -/
def next? : Rounds → Option (RoundParams × Rounds)
  | range next last =>
    if !next.inverted && decide (last < next.tapeLength) then none
    else some (next, range (successor next) last)
  | listed [] => none
  | listed (p :: ps) => some (p, listed ps)

/-- The first `n` rounds, or all if there are fewer. -/
def take (rounds : Rounds) : Nat → List RoundParams
  | 0 => []
  | n + 1 =>
    match rounds.next? with
    | none => []
    | some (p, rest) => p :: rest.take n

/-- More than the number of rounds of every sequence that ends. -/
def bound : Rounds → Nat
  | range next last => 2 * (last.toInt - next.tapeLength.toInt + 1).toNat + 1
  | listed ps => ps.length

/-- All rounds of a sequence that ends. -/
def toList (rounds : Rounds) : List RoundParams :=
  rounds.take rounds.bound

/-- The first flaw among the first `n` rounds. -/
def flawWithin? (rounds : Rounds) : Nat → Option RoundParams.Flaw
  | 0 => none
  | n + 1 =>
    match rounds.next? with
    | none => none
    | some (p, rest) =>
      match p.flaw? with
      | some flaw => some flaw
      | none => rest.flawWithin? n

/-- The first flaw of a sequence. A range that goes round meets a negative tape length
right after its last one, so looking that far is enough for it too. -/
def flaw? (rounds : Rounds) : Option RoundParams.Flaw :=
  rounds.flawWithin? (rounds.bound + 1)

end Rounds

end TapeDuel
