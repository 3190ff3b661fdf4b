import Mathlib
import TapeDuel.Engine.Walker
import TapeDuel.Proofs.AgentTurns
import TapeDuel.Proofs.IdleBlocks

/-!
# Agents do what walkers do

A walker knows what its bot has still to do; an agent has a pointer and a stack
of counters. `Plan.Ahead` ties the two together: read from the pointer on, with
the counters for the passes already made, the program says exactly what the
plan says.

The bookkeeping of the agent and that of the walker need not go step by step.
The agent skips an inert loop in one move, the walker opens all its passes. So
a free move is only asked to keep what the plan comes to, `Plan.ready`. At rest
there is nothing left to open, and the plan that is ready is the plan ahead.
From there a turn of the agent is a turn of the walker, and the tree decides
what an agent does for every sequence of cells it is shown.
-/

namespace TapeDuel

/-! ## Plans that come to the same -/

namespace Plan

theorem ready_nil : ready [] = [] := by
  simp [ready]

theorem ready_done (rest : Plan) : ready (.block .done :: rest) = ready rest := by
  rw [ready]

theorem ready_times_zero (body next : Block) (rest : Plan) :
    ready (.block (.times body 0 next) :: rest) = ready (.block next :: rest) := by
  rw [ready]

theorem ready_times_succ (body next : Block) (count : Nat) (rest : Plan) :
    ready (.block (.times body (count + 1) next) :: rest) =
      ready (.block body :: .block (.times body count next) :: rest) := by
  rw [ready]

theorem ready_of_takesTurn {plan : Plan} (h : TakesTurn plan) :
    ready plan = plan := by
  unfold ready
  split
  · cases h
  · cases h
  · cases h
  · rfl

/-- If a body is opened to nothing, so are any number of passes. -/
theorem ready_times_of_body {body : Block}
    (hbody : ∀ rest, ready (.block body :: rest) = ready rest) (count : Nat)
    (next : Block) (rest : Plan) :
    ready (.block (.times body count next) :: rest) =
      ready (.block next :: rest) := by
  induction count with
  | zero => exact ready_times_zero body next rest
  | succ count ih => rw [ready_times_succ, hbody, ih]

theorem ready_idle {b : Block} (h : b.idle = true) (rest : Plan) :
    ready (.block b :: rest) = ready rest := by
  induction b generalizing rest with
  | done => exact ready_done rest
  | act action next => cases h
  | loop body next => cases h
  | times body count next ihBody ihNext =>
      rw [Block.idle, Bool.and_eq_true, Bool.or_eq_true, beq_iff_eq] at h
      obtain ⟨rfl | hbody, hnext⟩ := h
      · rw [ready_times_zero, ihNext hnext]
      · rw [ready_times_of_body (ihBody hbody), ihNext hnext]

/-- An inert loop is opened to nothing. -/
theorem ready_times_of_inert {body : Block} {count : Nat}
    (h : (count == 0 || body.idle) = true) (next : Block) (rest : Plan) :
    ready (.block (.times body count next) :: rest) =
      ready (.block next :: rest) := by
  rw [Bool.or_eq_true, beq_iff_eq] at h
  rcases h with rfl | hbody
  · exact ready_times_zero body next rest
  · exact ready_times_of_body (ready_idle hbody) count next rest

end Plan

/-! ## The plan ahead of a pointer -/

namespace Block

/-- The block stands at the place `k`: its code does, and its counted loops are
marked as they should be. -/
def Stands (p : Program) (b : Block) (k : Nat) : Prop :=
  LaidAt p b k ∧ Marked p.inert b k

theorem stands_program (b : Block) : Stands b.program b 0 :=
  ⟨laidAt_program b, marked_program b⟩

section Stands

variable {p : Program} {body next : Block} {k : Nat}

theorem Stands.act {action : Action} (h : Stands p (act action next) k) :
    p[k]? = some (.plain action.op) ∧ Stands p next (k + 1) :=
  ⟨h.1.act.1, h.1.act.2, h.2⟩

theorem Stands.loop (h : Stands p (loop body next) k) :
    p[k]? = some (.linked .whileStart (k + body.size + 1)) ∧
      Stands p body (k + 1) ∧
      p[k + body.size + 1]? = some (.linked .whileEnd k) ∧
      Stands p next (k + body.size + 2) := by
  obtain ⟨hfirst, hbody, hlast, hnext⟩ := h.1.loop
  exact ⟨hfirst, ⟨hbody, h.2.1⟩, hlast, hnext, h.2.2⟩

theorem Stands.times {count : Nat} (h : Stands p (times body count next) k) :
    p[k]? = some (.linked .repeatStart (k + body.size + 1)) ∧
      p.inertAt k = (count == 0 || body.idle) ∧
      Stands p body (k + 1) ∧
      p[k + body.size + 1]? = some (.repeatEnd k count) ∧
      Stands p next (k + body.size + 2) := by
  obtain ⟨hfirst, hbody, hlast, hnext⟩ := h.1.times
  exact ⟨hfirst, h.2.1, ⟨hbody, h.2.2.1⟩, hlast, hnext, h.2.2.2⟩

end Stands

end Block

namespace Plan

/-- The plan is what the program says from the place `k` on, when the counted
loops around it have the counters. -/
inductive Ahead (p : Program) : Plan → Nat → List Nat → Prop
  | ended : Ahead p [] p.size []
  | block {b : Block} {rest : Plan} {k : Nat} {counters : List Nat}
      (stands : b.Stands p k) (after : Ahead p rest (k + b.size) counters) :
      Ahead p (.block b :: rest) k counters
  | loopEnd {body : Block} {rest : Plan} {s : Nat} {counters : List Nat}
      (stands : body.Stands p (s + 1))
      (stop : p[s + body.size + 1]? = some (.linked .whileEnd s))
      (after : Ahead p rest (s + body.size + 2) counters) :
      Ahead p (.loopEnd body :: rest) (s + body.size + 1) counters
  /-- Behind the last thing of a pass, with `left` passes still to make. -/
  | passEnd {body next : Block} {rest : Plan} {s count left : Nat}
      {counters : List Nat} (stands : body.Stands p (s + 1))
      (stop : p[s + body.size + 1]? = some (.repeatEnd s (count + left + 1)))
      (standsNext : next.Stands p (s + body.size + 2))
      (after : Ahead p rest (s + body.size + 2 + next.size) counters) :
      Ahead p (.block (.times body left next) :: rest) (s + body.size + 1)
        (count :: counters)

theorem ahead_program (b : Block) : Ahead b.program [.block b] 0 [] := by
  refine .block b.stands_program ?_
  rw [Nat.zero_add, ← b.size_program]
  exact .ended

section Ahead

variable {p : Program} {plan : Plan} {k : Nat} {counters : List Nat}

/-- Into a counted loop, or back to its start: the body is next, and behind it
the end of the pass. -/
theorem Ahead.pass {body next : Block} {rest : Plan} {s count left : Nat}
    (hbody : body.Stands p (s + 1))
    (hstop : p[s + body.size + 1]? = some (.repeatEnd s (count + left + 1)))
    (hnext : next.Stands p (s + body.size + 2))
    (hrest : Ahead p rest (s + body.size + 2 + next.size) counters) :
    Ahead p (.block body :: .block (.times body left next) :: rest) (s + 1)
      (count :: counters) := by
  refine .block hbody ?_
  rw [show s + 1 + body.size = s + body.size + 1 by omega]
  exact .passEnd hbody hstop hnext hrest

/-- Behind the start of a conditional loop: its body is next, and behind it the
end of the loop. -/
theorem Ahead.round {body : Block} {rest : Plan} {s : Nat}
    (hbody : body.Stands p (s + 1))
    (hstop : p[s + body.size + 1]? = some (.linked .whileEnd s))
    (hrest : Ahead p rest (s + body.size + 2) counters) :
    Ahead p (.block body :: .loopEnd body :: rest) (s + 1) counters := by
  refine .block hbody ?_
  rw [show s + 1 + body.size = s + body.size + 1 by omega]
  exact .loopEnd hbody hstop hrest

/-- Where a free move leads from the start of a counted loop: past an inert
loop, or into the first pass of any other. -/
theorem Ahead.freeMove_start {body next : Block} {rest : Plan} {count : Nat}
    (hstands : (Block.times body count next).Stands p k)
    (hrest : Ahead p rest (k + body.size + 2 + next.size) counters) {k' : Nat}
    {counters' : List Nat} (hmove : p.FreeMove k counters k' counters') :
    ∃ plan', Ahead p plan' k' counters' ∧
      ready plan' = ready (.block (.times body count next) :: rest) := by
  obtain ⟨hfirst, hinert, hbody, hlast, hnext⟩ := hstands.times
  cases hmove with
  | @skip e _ i hi hop ht hskip =>
      rw [hfirst] at hi
      cases hi
      obtain rfl : e = k + body.size + 1 := Int.ofNat_inj.mp ht.symm
      refine ⟨.block next :: rest, .block hnext hrest, ?_⟩
      rw [ready_times_of_inert (by rw [← hinert, hskip])]
  | enter hi hop hgo =>
      rw [hgo] at hinert
      cases count with
      | zero => cases hinert
      | succ left =>
          rw [← Nat.zero_add left] at hlast
          exact ⟨_, .pass hbody hlast hnext hrest,
            (ready_times_succ _ _ _ _).symm⟩
  | leave hi hop | again hi hop =>
      rw [hfirst] at hi
      cases hi
      cases hop

/-- And from its end: out of the loop, or back for the next pass. The counter
and the passes that are left add up to the number of passes. -/
theorem Ahead.freeMove_stop {body next : Block} {rest : Plan}
    {s count left : Nat} (hbody : body.Stands p (s + 1))
    (hstop : p[s + body.size + 1]? = some (.repeatEnd s (count + left + 1)))
    (hnext : next.Stands p (s + body.size + 2))
    (hrest : Ahead p rest (s + body.size + 2 + next.size) counters) {k' : Nat}
    {counters' : List Nat}
    (hmove : p.FreeMove (s + body.size + 1) (count :: counters) k' counters') :
    ∃ plan', Ahead p plan' k' counters' ∧
      ready plan' = ready (.block (.times body left next) :: rest) := by
  cases hmove with
  | skip hi hop | enter hi hop =>
      rw [hstop] at hi
      cases hi
      cases hop
  | leave hi hop hle =>
      rw [hstop] at hi
      cases hi
      obtain rfl : left = 0 := by
        simp only [Instruction.repeatEnd] at hle
        omega
      exact ⟨_, .block hnext hrest, (ready_times_zero _ _ _).symm⟩
  | @again s' _ _ i hi hop ht hlt =>
      rw [hstop] at hi
      cases hi
      obtain rfl : s' = s := Int.ofNat_inj.mp ht.symm
      cases left with
      | zero =>
          simp only [Instruction.repeatEnd] at hlt
          omega
      | succ left =>
          rw [show count + (left + 1) + 1 = count + 1 + left + 1 by omega]
            at hstop
          exact ⟨_, .pass hbody hstop hnext hrest,
            (ready_times_succ _ _ _ _).symm⟩

/-- A free move keeps what the plan ahead comes to. -/
theorem Ahead.freeMove (h : Ahead p plan k counters) {k' : Nat}
    {counters' : List Nat} (hmove : p.FreeMove k counters k' counters') :
    ∃ plan', Ahead p plan' k' counters' ∧ ready plan' = ready plan := by
  have hno := Program.not_turnAt_of_freeMove hmove
  induction h with
  | ended =>
      exfalso
      cases hmove with
      | skip hi | enter hi =>
          exact absurd (Program.lt_size_of_getElem? hi) (Nat.lt_irrefl _)
  | @block b rest k counters stands after ih =>
      cases b with
      | done =>
          -- A block that is done has no code: the move is made from what follows.
          obtain ⟨plan', hahead, hready⟩ := ih hmove hno
          exact ⟨plan', hahead, by rw [hready, ready_done]⟩
      | act action next =>
          refine absurd ⟨_, stands.act.1, ?_⟩ hno
          cases action <;> rfl
      | loop body next => exact absurd ⟨_, stands.loop.1, rfl⟩ hno
      | times body count next =>
          refine freeMove_start stands ?_ hmove
          rw [show k + body.size + 2 + next.size =
            k + (Block.times body count next).size by rw [Block.size]; omega]
          exact after
  | loopEnd stands stop => exact absurd ⟨_, stop, rfl⟩ hno
  | passEnd stands stop standsNext after =>
      exact freeMove_stop stands stop standsNext after hmove

theorem Ahead.freePath (h : Ahead p plan k counters) {m k' : Nat}
    {counters' : List Nat} (hpath : p.FreePath m k counters k' counters') :
    ∃ plan', Ahead p plan' k' counters' ∧ ready plan' = ready plan := by
  induction hpath generalizing plan with
  | stay => exact ⟨plan, h, rfl⟩
  | move first _ ih =>
      obtain ⟨plan₁, h₁, hready₁⟩ := h.freeMove first
      obtain ⟨plan₂, h₂, hready₂⟩ := ih h₁
      exact ⟨plan₂, h₂, hready₂.trans hready₁⟩

/-- At rest the plan ahead is ready, but for blocks that are done. -/
theorem Ahead.atRest (h : Ahead p plan k counters) (hrest : p.AtRest k) :
    Ahead p (ready plan) k counters := by
  have hturn : ∀ {i : Instruction}, p[k]? = some i →
      i.op.isLoopControl = false := by
    intro i hi
    rcases hrest with hge | ⟨j, hj, hop⟩
    · have := Program.lt_size_of_getElem? hi
      omega
    · rw [hi] at hj
      cases hj
      exact hop
  induction h with
  | ended =>
      rw [ready_nil]
      exact .ended
  | @block b rest k counters stands after ih =>
      cases b with
      | done =>
          rw [ready_done]
          exact ih hrest hturn
      | act action next =>
          rw [ready_of_takesTurn
            (show TakesTurn (.block (.act action next) :: rest) from trivial)]
          exact .block stands after
      | loop body next =>
          rw [ready_of_takesTurn
            (show TakesTurn (.block (.loop body next) :: rest) from trivial)]
          exact .block stands after
      | times body count next => cases hturn stands.times.1
  | @loopEnd body rest s counters stands stop after =>
      rw [ready_of_takesTurn
        (show TakesTurn (.loopEnd body :: rest) from trivial)]
      exact .loopEnd stands stop after
  | passEnd stands stop => cases hturn stop

end Ahead

end Plan

/-! ## One turn -/

namespace Agent

/-- The bots look the same from outside. -/
structure Alike (a : Agent) (w : Walker) : Prop where
  orientation : a.orientation = w.orientation
  polarity : a.polarity = w.polarity
  position : a.position = w.position

/-- Doing an action, the agent's way and the walker's. -/
theorem Alike.perform {a : Agent} {w : Walker} (h : a.Alike w) (action : Action)
    (zero : Bool) :
    (a.execute (.plain action.op) zero).2 = (w.perform action).2 ∧
      (a.execute (.plain action.op) zero).1.Alike (w.perform action).1 ∧
      (a.execute (.plain action.op) zero).1.pointer = a.pointer + 1 ∧
      (w.perform action).1.plan = w.plan := by
  obtain ⟨horientation, hpolarity, hposition⟩ := h
  cases action with
  | back | forward =>
      refine ⟨rfl, ⟨horientation, hpolarity, ?_⟩, rfl, rfl⟩
      show wrap64 (a.position + a.orientation.movement _) = wrap64 _
      rw [hposition, horientation]
  | increment | decrement =>
      refine ⟨?_, ⟨horientation, hpolarity, hposition⟩, rfl, rfl⟩
      show some (Mutation.mk a.position (a.polarity.delta _)) = some _
      rw [hposition, hpolarity]
  | rest => exact ⟨rfl, ⟨horientation, hpolarity, hposition⟩, rfl, rfl⟩

/-- What a turn of both has to come to: the same change, bots that look the
same, and the walker's new plan ahead of the agent's new pointer. -/
def TurnsAlike (p : Program) (counters : List Nat)
    (x : Agent × Option Mutation) (y : Walker × Option Mutation) : Prop :=
  x.2 = y.2 ∧ x.1.Alike y.1 ∧
    ∃ k : Nat, x.1.pointer = k ∧ Plan.Ahead p y.1.plan k counters

section TakeTurn

variable {s : Agent} {w : Walker} {k : Nat} {counters : List Nat}

theorem turnsAlike_act {action : Action} {next : Block} {rest : Plan}
    (hptr : s.pointer = k) (hlike : s.Alike w)
    (hnext : next.Stands s.program (k + 1))
    (hrest : Plan.Ahead s.program rest (k + 1 + next.size) counters)
    (zero : Bool) :
    TurnsAlike s.program counters (s.execute (.plain action.op) zero)
      ({ w with plan := .block next :: rest }.perform action) := by
  have hlike' : s.Alike { w with plan := .block next :: rest } :=
    ⟨hlike.1, hlike.2, hlike.3⟩
  obtain ⟨hchange, hlike', hpointer, hplan⟩ := hlike'.perform action zero
  refine ⟨hchange, hlike', k + 1, by rw [hpointer, hptr]; rfl, ?_⟩
  rw [hplan]
  exact .block hnext hrest

/-- A turn at an end of a conditional loop: on to the next place, or behind the
place `t` of the other end, as the cell says. -/
theorem turnsAlike_jump {i : Instruction} {zero : Bool} {t : Nat} {plan : Plan}
    (hlike : s.Alike w) (ht : t < s.program.size)
    (hexec : s.execute i zero = (s.advance, none) ∧ s.pointer = t ∨
      s.execute i zero = (s.jump t, none))
    (hahead : Plan.Ahead s.program plan (t + 1) counters) :
    TurnsAlike s.program counters (s.execute i zero)
      ({ w with plan }, none) := by
  rcases hexec with ⟨hexec, hptr⟩ | hexec
  · rw [hexec]
    refine ⟨rfl, ⟨hlike.1, hlike.2, hlike.3⟩, t + 1, ?_, hahead⟩
    exact congrArg (· + 1) hptr
  · rw [hexec]
    refine ⟨rfl, ⟨hlike.1, hlike.2, hlike.3⟩, t + 1, ?_, hahead⟩
    exact Program.landing_natCast ht

/-- A settled agent takes the turn that is next in the plan. Its counters are
not touched. -/
theorem takeTurn_of_ahead (hptr : s.pointer = k) (hlike : s.Alike w)
    (h : Plan.Ahead s.program w.plan.ready k counters) (zero : Bool) :
    TurnsAlike s.program counters (s.takeTurn zero) (w.step zero) := by
  have hready := Plan.ready_eq_nil_or_takesTurn w.plan
  rw [takeTurn, hptr, Program.at?_natCast, Walker.step, Plan.turn]
  generalize w.plan.ready = plan at h hready
  cases h with
  | ended =>
      rw [Array.getElem?_eq_none (Nat.le_refl _)]
      exact ⟨rfl, ⟨hlike.1, hlike.2, hlike.3⟩, _, hptr, .ended⟩
  | @block b rest _ _ stands after =>
      cases b with
      | done | times =>
          rcases hready with hnil | hturn
          · cases hnil
          · cases hturn
      | act action next =>
          obtain ⟨hi, hnext⟩ := stands.act
          rw [hi]
          refine turnsAlike_act hptr hlike hnext ?_ zero
          rw [Nat.add_assoc, Nat.add_comm 1]
          exact after
      | loop body next =>
          obtain ⟨hfirst, hbody, hlast, hnext⟩ := stands.loop
          have hafter : Plan.Ahead s.program rest
              (k + body.size + 2 + next.size) counters := by
            rw [show k + body.size + 2 + next.size =
              k + (Block.loop body next).size by rw [Block.size]; omega]
            exact after
          rw [hfirst]
          cases zero with
          | true =>
              exact turnsAlike_jump hlike (Program.lt_size_of_getElem? hlast)
                (.inr rfl) (.block hnext hafter)
          | false =>
              exact turnsAlike_jump hlike (Program.lt_size_of_getElem? hfirst)
                (.inl ⟨rfl, hptr⟩) (.round hbody hlast (.block hnext hafter))
  | @loopEnd body rest start _ stands stop after =>
      have hlt := Program.lt_size_of_getElem? stop
      rw [stop]
      cases zero with
      | true => exact turnsAlike_jump hlike hlt (.inl ⟨rfl, hptr⟩) after
      | false =>
          exact turnsAlike_jump hlike (by omega) (.inr rfl)
            (.round stands stop after)
  | passEnd =>
      rcases hready with hnil | hturn
      · cases hnil
      · cases hturn

end TakeTurn

/-- The agent is sound, it looks like the walker, and what lies ahead of it is
what the walker has still to do. -/
def Follows (a : Agent) (w : Walker) : Prop :=
  a.Alike w ∧ ∃ k plan, a.Sound k ∧ Plan.Ahead a.program plan k a.counters ∧
    plan.ready = w.plan.ready

theorem follows_new (b : Block) (length : Int64) (orientation : Orientation)
    (polarity : Polarity) :
    (Agent.new b.program length orientation polarity).Follows
      (Walker.new b length orientation polarity) :=
  ⟨⟨rfl, rfl, rfl⟩, 0, _, sound_new b.sound_program _ _ _,
    Plan.ahead_program b, rfl⟩

/-- One turn of an agent is one turn of the walker it follows. -/
theorem Follows.step {a : Agent} {w : Walker} (h : a.Follows w) (zero : Bool) :
    ∃ a', a.step zero = .ok (a', (w.step zero).2) ∧
      a'.Follows (w.step zero).1 := by
  obtain ⟨hlike, k, plan, hsound, hahead, hready⟩ := h
  obtain ⟨m, k₁, counters₁, hpath, hrest, hsettle, hsettled⟩ := hsound.settle
  obtain ⟨plan₁, hahead₁, hready₁⟩ := hahead.freePath hpath
  have hnext := hahead₁.atRest hrest
  rw [hready₁, hready] at hnext
  obtain ⟨hchange, hlike', k', hk', hahead'⟩ :=
    takeTurn_of_ahead (s := a.at_ k₁ counters₁) rfl
      ⟨hlike.1, hlike.2, hlike.3⟩ hnext zero
  obtain ⟨k'', hsound'⟩ := hsettled.takeTurn hrest zero
  obtain ⟨-, -, hprogram, hcounters, -⟩ := hsettled.toChecked.takeTurn zero
  obtain rfl : k'' = k' := by
    have := hsound'.pointer
    omega
  refine ⟨((a.at_ k₁ counters₁).takeTurn zero).1, ?_, hlike', k'', _, hsound',
    ?_, rfl⟩
  · rw [step_of_settle hsettle, ← hchange]
  · rw [hprogram, hcounters]
    exact hahead'

end Agent

/-! ## Any sequence of cells -/

/-- What a bot shows when it is fed one bit after the other, each telling
whether its cell is zero: the position behind each turn, and the change that
the turn asks for. -/
def Agent.feed (a : Agent) : List Bool → Except Fault (List (Int × Option Mutation))
  | [] => .ok []
  | zero :: bits =>
    match a.step zero with
    | .error fault => .error fault
    | .ok (a', change) => (a'.feed bits).map ((a'.position, change) :: ·)

/-- The same for a walker, which cannot fail. -/
def Walker.feed (w : Walker) : List Bool → List (Int × Option Mutation)
  | [] => []
  | zero :: bits =>
    ((w.step zero).1.position, (w.step zero).2) :: (w.step zero).1.feed bits

theorem Agent.Follows.feed (bits : List Bool) :
    ∀ {a : Agent} {w : Walker}, a.Follows w → a.feed bits = .ok (w.feed bits) := by
  induction bits with
  | nil => intro a w _; rfl
  | cons zero bits ih =>
      intro a w h
      obtain ⟨a', hstep, h'⟩ := h.step zero
      rw [Agent.feed, hstep, Walker.feed]
      show (a'.feed bits).map _ = _
      rw [ih h', ← h'.1.position]
      rfl

/-- The agent of a compiled source never fails, and shows turn by turn what a
walker over the tree of the source shows, whatever cells it is fed. -/
theorem compiled_agent_feeds_as_tree {source : Source} {p : Program}
    (h : source.compile = .ok p) :
    ∃ b, source.parse = .ok b ∧
      ∀ (length : Int64) (orientation : Orientation) (polarity : Polarity)
        (bits : List Bool),
        (Agent.new p length orientation polarity).feed bits =
          .ok ((Walker.new b length orientation polarity).feed bits) := by
  obtain ⟨b, hparse, rfl⟩ := Source.compile_eq_ok_iff.mp h
  refine ⟨b, hparse, fun length orientation polarity bits => ?_⟩
  exact (Agent.follows_new b length orientation polarity).feed bits

/-- The theorem at a conditional loop in a counted one, with an inert loop in
its body. The last turn finds the count right: there is no third pass. -/
theorem compiled_agent_feeds_as_tree_nested :
    ∃ p : Program, (⟨"", "(>[(.)*0-])*2+"⟩ : Source).compile = .ok p ∧
      (Agent.new p 10 .reversed .normal).feed
          [true, false, false, true, true, true, false] =
        .ok [(8, none), (8, none), (8, some ⟨8, -1⟩), (8, none), (7, none),
          (7, none), (7, some ⟨7, 1⟩)] := by
  have hparse : (⟨"", "(>[(.)*0-])*2+"⟩ : Source).parse =
      .ok (.times (.act .forward (.loop
        (.times (.act .rest .done) 0 (.act .decrement .done)) .done)) 2
        (.act .increment .done)) := by cbv
  have hcompile := Source.compile_eq_ok_iff.mpr ⟨_, hparse, rfl⟩
  obtain ⟨b, hparse', hfeed⟩ := compiled_agent_feeds_as_tree hcompile
  rw [hparse] at hparse'
  cases hparse'
  refine ⟨_, hcompile, (hfeed 10 .reversed .normal _).trans ?_⟩
  cbv

end TapeDuel
