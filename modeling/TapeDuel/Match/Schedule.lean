import TapeDuel.Match.Semaphore
import TapeDuel.Match.Tournament

/-!
# Games at the same time

A tournament may play several games at once. Its run is then a list of events: the
launch of the next game, and the progress of one of the games that hold a place. Any
event that is possible may be the next, so every order in which the games can be
launched, finished and reported is such a list.

Two things are shared. A game needs a free place to be launched and gives it back when
it leaves, and only one game at a time has the score sheet, on which it enters its
result and from which it is reported. The first failure stops the tournament: a later
one does not replace it, the launches that are left may be skipped, and a game that
asks whether to go on is told to stop.
-/

namespace TapeDuel.Tournament

/-- Where a game that holds a place stands. -/
inductive Stage where
  /-- It is being played; `late` tells that the tournament had been stopped before its
  launch. -/
  | playing (late : Bool)
  /-- It was played to the end and waits for the score sheet. -/
  | played (result : GameResult)
  /-- It has the score sheet, and its result is entered and reported. A failure of the
  report is still to be raised. -/
  | entered (failure : Option Failure)
  /-- It was not played to the end, and the failure is still to be raised. -/
  | failed (failure : Failure)
  /-- Only its place is left to be given back. -/
  | leaving

namespace Stage

/-- Whether the game has the score sheet. -/
def hasSheet : Stage → Bool
  | entered _ => true
  | _ => false

end Stage

/-- A game that holds a place. -/
structure Seat where
  pairing : Nat × Nat
  stage : Stage

/-- A tournament while several games are played. -/
structure Hall where
  /-- The pairs whose games are still to be launched. -/
  pending : List (Nat × Nat)
  places : Semaphore
  /-- The games that hold a place, in the order of their launch. -/
  seats : List Seat
  sheet : State
  /-- The failure that stopped the tournament. -/
  stopped : Option Failure

/-- What happens next. A game is named by its place in the list of seats. -/
inductive Event where
  /-- The next game is launched. -/
  | launch
  /-- The remaining games of the next game's first player are not launched. -/
  | skip
  /-- A game is over. `answers` is how many times it had been told to go on when it
  was told to stop, if it was. -/
  | finish (seat : Nat) (answers : Option Nat)
  /-- A game that was over goes on to its next stage. -/
  | advance (seat : Nat)
deriving DecidableEq, Repr

namespace Hall

/-- The tournament before any launch. At least one game is played at a time. -/
def opening (entries : List Entry) (parallelism : Int) : Hall :=
  { pending := pairings entries.length
    places := .new (max 1 parallelism.toNat)
    seats := []
    sheet := ⟨(entries.map fun e => Standing.start e.name).toArray, []⟩
    stopped := none }

/-- Whether no game is left to be launched or to leave. -/
def isOver (h : Hall) : Bool :=
  h.pending.isEmpty && h.seats.isEmpty

/-- How the tournament has ended. -/
def outcome (h : Hall) : Outcome :=
  { games := h.sheet.reported.reverse
    standings :=
      match h.stopped with
      | some failure => .error failure
      | none => .ok (sortStandings h.sheet.standings.toList) }

/-- The first failure counts. -/
def raise (h : Hall) (failure : Failure) : Hall :=
  { h with stopped := h.stopped.or (some failure) }

/-- The tournament with one game in another stage. -/
def setStage (h : Hall) (k : Nat) (seat : Seat) (stage : Stage) : Hall :=
  { h with seats := h.seats.set k { seat with stage } }

/-- Launches the next game if there is a free place. -/
def launch? (h : Hall) : Option Hall :=
  match h.pending, h.places.acquire? with
  | pairing :: rest, some places =>
    some { h with
      pending := rest, places
      seats := h.seats ++ [⟨pairing, .playing h.stopped.isSome⟩] }
  | _, _ => none

/-- After the stop, the launches for one first player may be left out. -/
def skip? (h : Hall) : Option Hall :=
  match h.pending, h.stopped with
  | (i, _) :: _, some _ => some { h with pending := h.pending.dropWhile (·.1 == i) }
  | _, _ => none

/-- Whether a game can have had these answers: it is told to stop only after the stop,
and a late one is told nothing else. -/
def canAnswer (h : Hall) (late : Bool) (answers : Option Nat) : Bool :=
  match h.stopped with
  | none => answers.isNone
  | some _ => !late || answers == some 0

/-- The answers to a game as interrupts. -/
def interrupts : Option Nat → Interrupts
  | none => .never
  | some n => .after n

/-- Ends the play of a game. -/
def finish? (entries : Array Entry) (rounds : Rounds) (h : Hall) (k : Nat)
    (answers : Option Nat) : Option Hall :=
  match h.seats[k]? with
  | some seat =>
    match seat.stage, entries[seat.pairing.1]?, entries[seat.pairing.2]? with
    | .playing late, some a, some b =>
      if h.canAnswer late answers then
        match Game.play (interrupts answers) a.program b.program rounds with
        | .ok result => some (h.setStage k seat (.played result))
        | .error failure => some (h.setStage k seat (.failed (gameFailure a b failure)))
      else none
    | _, _, _ => none
  | none => none

/-- Enters the result of a game and reports it, if no other game has the score sheet. -/
def enter? (entries : Array Entry) (report : Report) (h : Hall) (k : Nat) (seat : Seat)
    (result : GameResult) : Option Hall :=
  let (i, j) := seat.pairing
  match h.seats.any (·.stage.hasSheet), entries[i]?, entries[j]? with
  | false, some a, some b =>
    let game : GameRecord := ⟨a.name, b.name, result⟩
    let sheet : State := ⟨credit h.sheet.standings i j result, game :: h.sheet.reported⟩
    let failure := report h.sheet.reported.length game
    some { h.setStage k seat (.entered failure) with sheet }
  | _, _, _ => none

/-- Takes a game to its next stage. -/
def advance? (entries : Array Entry) (report : Report) (h : Hall) (k : Nat) :
    Option Hall :=
  match h.seats[k]? with
  | some seat =>
    match seat.stage with
    | .playing _ => none
    | .played result => h.enter? entries report k seat result
    | .entered (some failure) => some ((h.raise failure).setStage k seat (.entered none))
    | .entered none => some (h.setStage k seat .leaving)
    | .failed failure => some ((h.raise failure).setStage k seat .leaving)
    | .leaving =>
      match h.places.release? with
      | some places => some { h with places, seats := h.seats.eraseIdx k }
      | none => none
  | none => none

/-- The tournament after an event; none if it is not possible. -/
def step (entries : Array Entry) (rounds : Rounds) (report : Report) (h : Hall) :
    Event → Option Hall
  | .launch => h.launch?
  | .skip => h.skip?
  | .finish k answers => h.finish? entries rounds k answers
  | .advance k => h.advance? entries report k

/-- The tournament after a list of events; none if one of them is not possible. -/
def run (entries : Array Entry) (rounds : Rounds) (report : Report) (h : Hall) :
    List Event → Option Hall
  | [] => some h
  | e :: rest =>
    match h.step entries rounds report e with
    | some next => next.run entries rounds report rest
    | none => none

/-- Every game that is launched and has not left holds exactly one place. -/
def Seated (h : Hall) : Prop :=
  h.places.held = h.seats.length

theorem seated_opening (entries : List Entry) (parallelism : Int) :
    (opening entries parallelism).Seated :=
  rfl

theorem seated_setStage {h : Hall} (hs : h.Seated) (k : Nat) (seat : Seat)
    (stage : Stage) : (h.setStage k seat stage).Seated := by
  simpa [Seated, setStage] using hs

theorem seated_launch? {h h' : Hall} (hs : h.Seated) (e : h.launch? = some h') :
    h'.Seated := by
  unfold launch? at e
  split at e
  · rename_i places hp
    cases e
    simpa [Seated, Semaphore.held_acquire? hp] using hs
  · cases e

theorem seated_skip? {h h' : Hall} (hs : h.Seated) (e : h.skip? = some h') :
    h'.Seated := by
  unfold skip? at e
  split at e
  · cases e
    exact hs
  · cases e

theorem seated_finish? {entries : Array Entry} {rounds : Rounds} {h h' : Hall} {k : Nat}
    {answers : Option Nat} (hs : h.Seated)
    (e : h.finish? entries rounds k answers = some h') : h'.Seated := by
  unfold finish? at e
  repeat' split at e
  all_goals cases e
  all_goals exact seated_setStage hs _ _ _

theorem seated_enter? {entries : Array Entry} {report : Report} {h h' : Hall} {k : Nat}
    {seat : Seat} {result : GameResult} (hs : h.Seated)
    (e : h.enter? entries report k seat result = some h') : h'.Seated := by
  simp only [enter?] at e
  split at e
  · cases e
    exact seated_setStage hs _ _ _
  · cases e

theorem seated_advance? {entries : Array Entry} {report : Report} {h h' : Hall} {k : Nat}
    (hs : h.Seated) (e : h.advance? entries report k = some h') : h'.Seated := by
  unfold advance? at e
  split at e
  · rename_i seat hk
    obtain ⟨hlt, -⟩ := List.getElem?_eq_some_iff.1 hk
    split at e
    · cases e
    · exact seated_enter? hs e
    · cases e
      exact seated_setStage (h := h.raise _) hs _ _ _
    · cases e
      exact seated_setStage hs _ _ _
    · cases e
      exact seated_setStage (h := h.raise _) hs _ _ _
    · split at e
      · rename_i places hp
        cases e
        have := Semaphore.held_release? hp
        simp only [Seated, List.length_eraseIdx, hlt, if_true] at hs ⊢
        omega
      · cases e
  · cases e

/-- No event gives a game two places or leaves a place held by none. -/
theorem seated_step {entries : Array Entry} {rounds : Rounds} {report : Report}
    {h h' : Hall} {event : Event} (hs : h.Seated)
    (e : h.step entries rounds report event = some h') : h'.Seated := by
  cases event with
  | launch => exact seated_launch? hs e
  | skip => exact seated_skip? hs e
  | finish k answers => exact seated_finish? hs e
  | advance k => exact seated_advance? hs e

end Hall

/-- Plays a tournament of at most `parallelism` games at a time in the order of the
events; none if one of them is not possible, or if games are left behind the last. -/
def scheduled (parallelism : Int) (entries : List Entry) (rounds : Rounds)
    (report : Report) (events : List Event) : Option Outcome :=
  match duplicated? entries, Semaphore.new? (max parallelism 1) with
  | some name, _ => some ⟨[], .error (.duplicatedEntry name)⟩
  | none, .error fault => some ⟨[], .error (.fault fault)⟩
  | none, .ok _ =>
    match (Hall.opening entries parallelism).run entries.toArray rounds report
        events with
    | some h => if h.isOver then some h.outcome else none
    | none => none

end TapeDuel.Tournament
