import TapeDuel.Engine.Side

/-!
# Verdicts

A round ends when a side loses. Nobody has lost: the round goes on. Both have lost: it
is a draw.
-/

namespace TapeDuel

/-- Which sides have lost. -/
structure Verdict where
  aLost : Bool
  bLost : Bool
deriving DecidableEq, Repr, Inhabited

namespace Verdict

/-- The round goes on. -/
def ongoing : Verdict :=
  ⟨false, false⟩

/-- Side A wins. -/
def aWins : Verdict :=
  ⟨false, true⟩

/-- Side B wins. -/
def bWins : Verdict :=
  ⟨true, false⟩

/-- Both sides lose. -/
def draw : Verdict :=
  ⟨true, true⟩

/-- Whether the round goes on. -/
def isOngoing (v : Verdict) : Bool :=
  !v.aLost && !v.bLost

/-- Whether the round is over. -/
@[inline]
def isFinished (v : Verdict) : Bool :=
  v.aLost || v.bLost

/-- Whether exactly one side has lost. -/
def hasWinner (v : Verdict) : Bool :=
  v.aLost != v.bLost

/-- Whether both sides have lost. -/
def isDraw (v : Verdict) : Bool :=
  v.aLost && v.bLost

/-- The side that has won, if there is one. -/
def winner? (v : Verdict) : Option Side :=
  match v with
  | ⟨false, true⟩ => some .a
  | ⟨true, false⟩ => some .b
  | _ => none

/-- The verdict with the sides exchanged. -/
def swap (v : Verdict) : Verdict :=
  ⟨v.bLost, v.aLost⟩

/-- A verdict in words. -/
def describe (v : Verdict) : String :=
  match v with
  | ⟨false, false⟩ => "ongoing"
  | ⟨true, true⟩ => "draw"
  | ⟨false, true⟩ => "a wins"
  | ⟨true, false⟩ => "b wins"

end Verdict

end TapeDuel
