import TapeDuel.Match.Game
import TapeDuel.Match.Semaphore

/-!
# Tournaments

Every pair of entries plays one game, the entry listed first on side A. Each game is
added to the standings of both and then reported; a report may end the tournament. The
games of different pairs do not influence each other, so they are played here in the
order of the list; `Match.Schedule` plays several at once.
-/

namespace TapeDuel

/-- A bot that takes part. -/
structure Entry where
  name : String
  program : Program
deriving DecidableEq, Repr

/-- A game between two named bots. -/
structure GameRecord where
  a : String
  b : String
  result : GameResult
deriving DecidableEq, Repr

/-- What a bot has achieved. -/
structure Standing where
  name : String
  points : Int
  wins : Nat
  losses : Nat
  draws : Nat
deriving DecidableEq, Repr

namespace Standing

/-- The standing before any game. -/
def start (name : String) : Standing :=
  ⟨name, 0, 0, 0, 0⟩

/-- The standing with the points of a game. -/
def score (s : Standing) (points : Int) : Standing :=
  { s with points := s.points + points }

/-- The standing with one more win. -/
def win (s : Standing) : Standing :=
  { s with wins := s.wins + 1 }

/-- The standing with one more loss. -/
def lose (s : Standing) : Standing :=
  { s with losses := s.losses + 1 }

/-- The standing with one more draw. -/
def draw (s : Standing) : Standing :=
  { s with draws := s.draws + 1 }

/-- More points come first, equal points are listed by name. -/
def order (s t : Standing) : Ordering :=
  (compare t.points s.points).then (compare s.name t.name)

/-- Whether a standing need not be listed behind another one. -/
def precedes (s t : Standing) : Bool :=
  (order s t).isLE

end Standing

/-- Standings in their final order. -/
def sortStandings (standings : List Standing) : List Standing :=
  standings.mergeSort Standing.precedes

/-- The standing of a bot. -/
def findStanding? (standings : List Standing) (name : String) : Option Standing :=
  standings.find? (·.name == name)

namespace Tournament

/-- The first entry whose name occurs again. -/
def duplicated? (entries : List Entry) : Option String :=
  match entries with
  | [] => none
  | e :: rest => if rest.any (·.name == e.name) then some e.name else duplicated? rest

/-- All pairs of places of `n` entries, in the order of the list. -/
def pairings (n : Nat) : List (Nat × Nat) :=
  (List.range n).flatMap fun i => (List.range' (i + 1) (n - (i + 1))).map fun j => (i, j)

/-- Adds a game to the standings of both players: its points, and then who has won it. -/
def credit (standings : Array Standing) (i j : Nat) (g : GameResult) : Array Standing :=
  let scored := (standings.modify i (·.score g.aPoints)).modify j (·.score g.bPoints)
  if g.aPoints > g.bPoints then (scored.modify i Standing.win).modify j Standing.lose
  else if g.aPoints < g.bPoints then
    (scored.modify i Standing.lose).modify j Standing.win
  else (scored.modify i Standing.draw).modify j Standing.draw

/-- What is done with the `n`-th reported game; a failure ends the tournament. -/
abbrev Report := Nat → GameRecord → Option Failure

/-- A tournament while it is played: the standings in the order of the entries, and
the games reported so far, latest first. -/
structure State where
  standings : Array Standing
  reported : List GameRecord

/-- How a tournament ends. -/
structure Outcome where
  /-- The reported games in the order of their reports. -/
  games : List GameRecord
  standings : Except Failure (List Standing)

/-- The failure of a game between `a` and `b`. -/
def gameFailure (a b : Entry) (failure : Failure) : Failure :=
  if failure.isCrash then failure else .within s!"{a.name} vs {b.name}" failure

/-- Plays the pairs that are left. -/
def playFrom (entries : Array Entry) (rounds : Rounds) (report : Report) :
    List (Nat × Nat) → State → Outcome
  | [], s => ⟨s.reported.reverse, .ok (sortStandings s.standings.toList)⟩
  | (i, j) :: rest, s =>
    match entries[i]?, entries[j]? with
    | some a, some b =>
      match Game.play .never a.program b.program rounds with
      | .error failure => ⟨s.reported.reverse, .error (gameFailure a b failure)⟩
      | .ok result =>
        let game : GameRecord := ⟨a.name, b.name, result⟩
        let s' : State := ⟨credit s.standings i j result, game :: s.reported⟩
        match report s.reported.length game with
        | some failure => ⟨s'.reported.reverse, .error failure⟩
        | none => playFrom entries rounds report rest s'
    | _, _ => playFrom entries rounds report rest s

/-- Plays a tournament of at most `parallelism` games at a time. `canceled` tells that
it is stopped before it starts. -/
def play (canceled : Bool) (parallelism : Int) (entries : List Entry) (rounds : Rounds)
    (report : Report) : Outcome :=
  match duplicated? entries, Semaphore.new? (max parallelism 1) with
  | some name, _ => ⟨[], .error (.duplicatedEntry name)⟩
  | none, .error fault => ⟨[], .error (.fault fault)⟩
  | none, .ok _ =>
    if canceled then ⟨[], .error .canceled⟩
    else
      playFrom entries.toArray rounds report (pairings entries.length)
        ⟨(entries.map fun e => Standing.start e.name).toArray, []⟩

end Tournament

end TapeDuel
