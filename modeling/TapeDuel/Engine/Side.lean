import TapeDuel.Word

/-!
# Sides, orientations and polarities

Both bots are written as if they stood at cell zero and moved to higher cells. The bot
on side B starts at the last cell instead and every move of it is turned round; in
half of the rounds its `+` and `-` are exchanged as well.
-/

namespace TapeDuel

/-- The two sides of a round. -/
inductive Side where
  | a
  | b
deriving DecidableEq, Repr

namespace Side

/-- The name of a side. -/
def name : Side → String
  | a => "a"
  | b => "b"

/-- The opponent's side. -/
def other : Side → Side
  | a => b
  | b => a

end Side

/-- Which way a bot looks along the tape. -/
inductive Orientation where
  | normal
  | reversed
deriving DecidableEq, Repr

/-- The move on the tape when a bot moves by `direction`. -/
@[inline]
def Orientation.movement (o : Orientation) (direction : Int) : Int :=
  match o with
  | normal => direction
  | reversed => wrap64 (-direction)

/-- Whether a bot's `+` and `-` are exchanged. -/
inductive Polarity where
  | normal
  | reversed
deriving DecidableEq, Repr

/-- The change of a cell when a bot changes it by `delta`. -/
@[inline]
def Polarity.delta (p : Polarity) (delta : Int8) : Int8 :=
  match p with
  | normal => delta
  | reversed => -delta

end TapeDuel
