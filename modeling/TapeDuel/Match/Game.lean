import TapeDuel.Match.Round
import TapeDuel.Match.Rounds
import TapeDuel.Match.Task

/-!
# Games

Two bots play every round of a sequence. A decided round moves one point from the
loser to the winner, so the points of a game add up to zero. The rounds are checked
before the first is played, and a game that is stopped has no result at all.
-/

namespace TapeDuel

/-- One round as it was played. -/
structure RoundRecord where
  params : RoundParams
  verdict : Verdict
  steps : Int
deriving DecidableEq, Repr, Inhabited

/-- The score of a game and its rounds. -/
structure GameResult where
  aPoints : Int
  bPoints : Int
  rounds : Array RoundRecord
deriving DecidableEq, Repr

namespace GameResult

/-- The result of no rounds. -/
def empty : GameResult :=
  ⟨0, 0, #[]⟩

instance : Inhabited GameResult := ⟨empty⟩

/-- The result with one more round. -/
def add (g : GameResult) (round : RoundRecord) : GameResult :=
  let rounds := g.rounds.push round
  match round.verdict.winner? with
  | some .a => ⟨g.aPoints + 1, g.bPoints - 1, rounds⟩
  | some .b => ⟨g.aPoints - 1, g.bPoints + 1, rounds⟩
  | none => ⟨g.aPoints, g.bPoints, rounds⟩

/-- The rounds that side A has won. -/
def aWins (g : GameResult) : Nat :=
  g.rounds.countP (·.verdict.winner? == some .a)

/-- The rounds that side B has won. -/
def bWins (g : GameResult) : Nat :=
  g.rounds.countP (·.verdict.winner? == some .b)

/-- The drawn rounds. -/
def draws (g : GameResult) : Nat :=
  g.rounds.countP (·.verdict.isDraw)

/-- A score, always with its sign. -/
def signed (points : Int) : String :=
  if points < 0 then toString points else s!"+{points}"

/-- A result in words: the points of both sides, then the wins of A, the wins of B and
the draws. -/
def describe (g : GameResult) : String :=
  s!"{signed g.aPoints} : {signed g.bPoints} ({g.aWins}/{g.bWins}/{g.draws})"

end GameResult

/-- A game while it is played. -/
structure GameState where
  asked : Nat
  result : GameResult

namespace Game

/-- Plays one round of a game. -/
def playRound (interrupts : Interrupts) (a b : Program) (params : RoundParams)
    (s : GameState) : Except Failure Unit × GameState :=
  if interrupts s.asked then (.error .canceled, { s with asked := s.asked + 1 })
  else
    match Round.play interrupts (s.asked + 1) a b params with
    | .error flaw => (.error (.within s!"round {params.describe}" (.badRound flaw)), s)
    | .ok (.faulted fault _, asked) => (.error (.fault fault), { s with asked })
    | .ok (.canceled _, asked) =>
      (.error (.within s!"round {params.describe}" .canceled), { s with asked })
    | .ok (.finished verdict steps, asked) =>
      (.ok (), ⟨asked, s.result.add ⟨params, verdict, steps⟩⟩)

/-- The work of a game: its rounds, one after the other. -/
def task (interrupts : Interrupts) (a b : Program) (rounds : List RoundParams) :
    Task GameState Failure :=
  .chain (rounds.map fun params => .single (playRound interrupts a b params))

/-- Plays every round of a sequence, `a` on side A and `b` on side B. -/
def play (interrupts : Interrupts) (a b : Program) (rounds : Rounds) :
    Except Failure GameResult :=
  match rounds.flaw? with
  | some flaw => .error (.badRound flaw)
  | none =>
    match (task interrupts a b rounds.toList).run ⟨0, .empty⟩ with
    | (.error failure, _) => .error failure
    | (.ok (), s) => .ok s.result

end Game

end TapeDuel
