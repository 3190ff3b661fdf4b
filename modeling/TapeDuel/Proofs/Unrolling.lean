import TapeDuel.Proofs.Rendering
import TapeDuel.Proofs.WalkerSimulation

/-!
# Counted loops written out

A counted loop is so many copies of its body, and a block in which every loop
was replaced by its copies has the same turns to take. `Block.chores` says so:
the list of what takes a turn in a block, with a counted loop giving the chores
of its body once for each pass, is the same before and after. Opening a plan
keeps its chores, and a turn of a walker depends on them alone, so walkers with
the same chores stay side by side for ever.

For agents there is one difference left. A pointer that has come to an end of a
counted loop is not at the end of the program, though nothing may be left to do.
Such an agent has ended one turn later (`Agent.Follows.step_of_no_chores`); in a
program without counted loops it has ended at once.
-/

namespace TapeDuel

namespace Block

/-! ## Blocks without counted loops -/

/-- The block has no counted loop. -/
def Plain : Block → Prop
  | done => True
  | act _ next => next.Plain
  | loop body next => body.Plain ∧ next.Plain
  | times _ _ _ => False

theorem act_append (action : Action) (next c : Block) :
    act action next ++ c = act action (next ++ c) := rfl

theorem loop_append (body next c : Block) :
    loop body next ++ c = loop body (next ++ c) := rfl

theorem times_append (body next c : Block) (count : Nat) :
    times body count next ++ c = times body count (next ++ c) := rfl

theorem Plain.append {b c : Block} (hb : b.Plain) (hc : c.Plain) :
    (b ++ c).Plain := by
  induction b with
  | done => exact hc
  | act action next ih => exact ih hb
  | loop body next _ ih => exact ⟨hb.1, ih hb.2⟩
  | times body count next => exact hb.elim

theorem Plain.copies {b : Block} (hb : b.Plain) (count : Nat) :
    (b.copies count).Plain := by
  induction count with
  | zero => exact trivial
  | succ count ih => exact hb.append ih

theorem plain_unrolled (b : Block) : b.unrolled.Plain := by
  induction b with
  | done => exact trivial
  | act action next ih => exact ih
  | loop body next ihBody ihNext => exact ⟨ihBody, ihNext⟩
  | times body count next ihBody ihNext =>
      exact (ihBody.copies count).append ihNext

theorem Plain.unrolled {b : Block} (h : b.Plain) : b.unrolled = b := by
  induction b with
  | done => rfl
  | act action next ih => rw [Block.unrolled, ih h]
  | loop body next ihBody ihNext => rw [Block.unrolled, ihBody h.1, ihNext h.2]
  | times body count next => exact h.elim

theorem Plain.signs {b : Block} (h : b.Plain) :
    ∀ w ∈ b.signs, w.op.isLoopControl = false ∧ w.Written := by
  induction b with
  | done => nofun
  | act action next ih =>
      refine List.forall_mem_cons.mpr ⟨?_, ih h⟩
      cases action <;> exact ⟨rfl, rfl⟩
  | loop body next ihBody ihNext =>
      simp only [Block.signs, List.cons_append, List.forall_mem_cons,
        List.forall_mem_append]
      exact ⟨⟨rfl, rfl⟩, ihBody h.1, ⟨rfl, rfl⟩, ihNext h.2⟩
  | times body count next => exact h.elim

/-- Without counted loops every tree is the tree of a text. -/
theorem Plain.compile_render {b : Block} (h : b.Plain) :
    compile b.program.render = .ok b.program := by
  refine Program.Canonical.compile_render ⟨?_, b.linked_program, ?_⟩
  · rw [← Program.map_op_signs, b.signs_program]
    exact b.nested_signs
  · rw [b.signs_program]
    exact fun w hw => (h.signs w hw).2

end Block

def Program.Plain (p : Program) : Prop :=
  ∀ i ∈ p, i.op.isLoopControl = false

theorem Block.Plain.program {b : Block} (h : b.Plain) : b.program.Plain := by
  intro i hi
  have hsign : i.sign ∈ b.program.signs :=
    List.mem_map_of_mem (Array.mem_toList_iff.mpr hi)
  rw [b.signs_program] at hsign
  exact (h.signs i.sign hsign).1

/-! ## What takes a turn -/

/-- Something that takes a turn. The bodies of conditional loops are kept with
their counted loops written out. -/
inductive Chore where
  | act (action : Action)
  | loop (body : Block)
  | loopEnd (body : Block)
deriving DecidableEq, Repr

/-- What takes a turn in a block, in order, every pass of a counted loop for
itself. -/
def Block.chores : Block → List Chore
  | done => []
  | act action next => .act action :: next.chores
  | loop body next => .loop body.unrolled :: next.chores
  | times body count next =>
    (List.replicate count body.chores).flatten ++ next.chores

def Pending.chores : Pending → List Chore
  | block b => b.chores
  | loopEnd body => [.loopEnd body.unrolled]

def Plan.chores (plan : Plan) : List Chore :=
  plan.flatMap Pending.chores

/-- One turn at the first chore: what is done in it, and the chores behind it. -/
def Chore.turn : List Chore → Bool → List Chore × Option Action
  | [], _ => ([], none)
  | .act action :: rest, _ => (rest, some action)
  | .loop body :: rest, cellIsZero | .loopEnd body :: rest, cellIsZero =>
    (if cellIsZero then rest else body.chores ++ .loopEnd body :: rest, none)

namespace Block

theorem chores_append (b c : Block) : (b ++ c).chores = b.chores ++ c.chores := by
  induction b with
  | done => rfl
  | act action next ih => rw [act_append, chores, chores, ih, List.cons_append]
  | loop body next _ ih => rw [loop_append, chores, chores, ih, List.cons_append]
  | times body count next _ ih =>
      rw [times_append, chores, chores, ih, List.append_assoc]

theorem chores_copies (b : Block) (count : Nat) :
    (b.copies count).chores = (List.replicate count b.chores).flatten := by
  induction count with
  | zero => rfl
  | succ count ih =>
      rw [copies, chores_append, ih, List.replicate_succ, List.flatten_cons]

/-- Writing counted loops out changes no turn. -/
theorem chores_unrolled (b : Block) : b.unrolled.chores = b.chores := by
  induction b with
  | done => rfl
  | act action next ih => rw [unrolled, chores, chores, ih]
  | loop body next _ ih =>
      rw [unrolled, chores, chores, ih, body.plain_unrolled.unrolled]
  | times body count next ihBody ihNext =>
      rw [unrolled, chores_append, chores_copies, ihBody, ihNext, chores]

end Block

namespace Plan

theorem chores_cons (p : Pending) (rest : Plan) :
    chores (p :: rest) = p.chores ++ chores rest :=
  List.flatMap_cons

theorem chores_ready (plan : Plan) : chores (ready plan) = chores plan := by
  fun_induction ready plan with
  | case1 rest ih => rw [ih, chores_cons, Pending.chores, Block.chores, List.nil_append]
  | case2 body next rest ih =>
      rw [ih]
      simp only [chores_cons, Pending.chores, Block.chores]
      rfl
  | case3 body count next rest ih =>
      rw [ih]
      simp only [chores_cons, Pending.chores, Block.chores, List.replicate_succ,
        List.flatten_cons, List.append_assoc]
  | case4 plan => rfl

/-- What takes a turn is a chore. -/
theorem chores_ne_nil {plan : Plan} (h : TakesTurn plan) : chores plan ≠ [] := by
  match plan with
  | .block (.act _ _) :: _ => exact List.cons_ne_nil _ _
  | .block (.loop _ _) :: _ => exact List.cons_ne_nil _ _
  | .loopEnd _ :: _ => exact List.cons_ne_nil _ _
  | [] => exact h.elim
  | .block .done :: _ => exact h.elim
  | .block (.times _ _ _) :: _ => exact h.elim

theorem ready_eq_nil_iff {plan : Plan} : ready plan = [] ↔ chores plan = [] := by
  rw [← chores_ready]
  constructor
  · intro h
    rw [h]
    rfl
  · intro h
    exact (ready_eq_nil_or_takesTurn plan).resolve_right fun hturn =>
      chores_ne_nil hturn h

/-- A turn of a plan is a turn of its chores. -/
theorem chores_turn (plan : Plan) (zero : Bool) :
    (chores (turn plan zero).1, (turn plan zero).2) =
      Chore.turn (chores plan) zero := by
  rw [turn, ← chores_ready plan]
  have hready := ready_eq_nil_or_takesTurn plan
  generalize ready plan = plan' at hready
  cases plan' with
  | nil => rfl
  | cons first rest =>
      cases first with
      | loopEnd body =>
          cases zero with
          | true => rfl
          | false =>
              simp only [chores_cons, Pending.chores, List.cons_append, Chore.turn,
                Block.chores_unrolled]
              rfl
      | block b =>
          cases b with
          | act action next => rfl
          | loop body next =>
              cases zero with
              | true => rfl
              | false =>
                  simp only [chores_cons, Pending.chores, Block.chores,
                    List.cons_append, Chore.turn, Block.chores_unrolled]
                  rfl
          | done | times => rcases hready with h | h <;> cases h

end Plan

/-! ## Side by side -/

/-- The walkers look the same and have the same chores. -/
structure Walker.Abreast (w w' : Walker) : Prop where
  orientation : w.orientation = w'.orientation
  polarity : w.polarity = w'.polarity
  position : w.position = w'.position
  chores : w.plan.chores = w'.plan.chores

theorem Walker.Abreast.step {w w' : Walker} (h : w.Abreast w') (zero : Bool) :
    (w.step zero).2 = (w'.step zero).2 ∧
      (w.step zero).1.Abreast (w'.step zero).1 := by
  obtain ⟨horientation, hpolarity, hposition, hchores⟩ := h
  have hturn : (Plan.chores (w.plan.turn zero).1, (w.plan.turn zero).2) =
      (Plan.chores (w'.plan.turn zero).1, (w'.plan.turn zero).2) := by
    rw [Plan.chores_turn, Plan.chores_turn, hchores]
  rw [Walker.step, Walker.step]
  generalize w.plan.turn zero = result at hturn ⊢
  generalize w'.plan.turn zero = result' at hturn ⊢
  obtain ⟨plan, action⟩ := result
  obtain ⟨plan', action'⟩ := result'
  obtain ⟨hplan, rfl⟩ := Prod.mk.inj hturn
  cases action with
  | none => exact ⟨rfl, horientation, hpolarity, hposition, hplan⟩
  | some action =>
      cases action with
      | back | forward =>
          refine ⟨rfl, horientation, hpolarity, ?_, hplan⟩
          show wrap64 (w.position + w.orientation.movement _) = wrap64 _
          rw [hposition, horientation]
      | increment | decrement =>
          refine ⟨?_, horientation, hpolarity, hposition, hplan⟩
          show some (Mutation.mk w.position (w.polarity.delta _)) = some _
          rw [hposition, hpolarity]
      | rest => exact ⟨rfl, horientation, hpolarity, hposition, hplan⟩

namespace Agent

/-- Where something takes a turn there is an instruction. -/
theorem lt_size_of_takesTurn {p : Program} {plan : Plan} {k : Nat}
    {counters : List Nat} (h : Plan.Ahead p plan k counters)
    (hturn : Plan.TakesTurn plan) : k < p.size := by
  cases h with
  | ended => exact hturn.elim
  | @block b _ _ _ stands =>
      cases b with
      | done | times => exact hturn.elim
      | act action next => exact Program.lt_size_of_getElem? stands.act.1
      | loop body next => exact Program.lt_size_of_getElem? stands.loop.1
  | loopEnd stands stop => exact Program.lt_size_of_getElem? stop
  | passEnd => exact hturn.elim

/-- And where nothing is ahead the program is at its end. -/
theorem eq_size_of_nil {p : Program} {k : Nat} {counters : List Nat}
    (h : Plan.Ahead p [] k counters) : k = p.size := by
  cases h
  rfl

section Follows

variable {a : Agent} {w : Walker}

/-- An agent that has ended has nothing left to do. -/
theorem Follows.chores_of_ended (h : a.Follows w) (hend : a.ended = true) :
    w.plan.chores = [] := by
  obtain ⟨-, k, plan, hsound, hahead, hready⟩ := h
  rw [ended, decide_eq_true_eq, hsound.pointer] at hend
  have hk : a.program.size ≤ k := by omega
  rw [← Plan.ready_eq_nil_iff, ← hready]
  exact plan.ready_eq_nil_or_takesTurn.resolve_right fun hturn =>
    absurd (lt_size_of_takesTurn (hahead.atRest (.inl hk)) hturn)
      (Nat.not_lt.mpr hk)

/-- Without counted loops an agent with nothing left to do has ended. -/
theorem Follows.ended_of_plain (h : a.Follows w) (hplain : a.program.Plain)
    (hchores : w.plan.chores = []) : a.ended = true := by
  obtain ⟨-, k, plan, hsound, hahead, hready⟩ := h
  have hrest : a.program.AtRest k := by
    rcases Nat.lt_or_ge k a.program.size with hlt | hge
    · have hi := Array.getElem?_eq_getElem hlt
      exact .inr ⟨_, hi, hplain _ (Array.getElem_mem hlt)⟩
    · exact .inl hge
  have hahead := hahead.atRest hrest
  rw [hready, Plan.ready_eq_nil_iff.mpr hchores] at hahead
  rw [ended, decide_eq_true_eq, hsound.pointer, eq_size_of_nil hahead]

/-- With nothing left to do an agent takes an empty turn, and has ended. -/
theorem Follows.step_of_no_chores (h : a.Follows w)
    (hchores : w.plan.chores = []) (zero : Bool) :
    ∃ a', a.step zero = .ok (a', none) ∧ a'.ended = true ∧
      a'.Follows (w.step zero).1 ∧ (w.step zero).1.Abreast w := by
  have hnil := Plan.ready_eq_nil_iff.mpr hchores
  have hwalk : w.step zero = ({ w with plan := [] }, none) := by
    rw [Walker.step, Plan.turn, hnil]
  obtain ⟨a', hstep, hfollows⟩ := h.step zero
  have habreast : (w.step zero).1.Abreast w := by
    rw [hwalk]
    exact ⟨rfl, rfl, rfl, hchores.symm⟩
  rw [hwalk] at hstep
  refine ⟨a', hstep, ?_, hfollows, habreast⟩
  -- The settled agent stands where nothing is ahead, which is the end.
  obtain ⟨-, k, plan, hsound, hahead, hready⟩ := h
  obtain ⟨m, k₁, counters₁, hpath, hrest, hsettle, -⟩ := hsound.settle
  obtain ⟨plan₁, hahead₁, hready₁⟩ := hahead.freePath hpath
  have hnext := hahead₁.atRest hrest
  rw [hready₁, hready, hnil] at hnext
  obtain rfl := eq_size_of_nil hnext
  rw [step_of_settle hsettle] at hstep
  have hturn : (a.at_ a.program.size counters₁).takeTurn zero =
      (a.at_ a.program.size counters₁, none) := by
    rw [takeTurn, at_, Program.at?_natCast, Array.getElem?_eq_none (Nat.le_refl _)]
  rw [hturn] at hstep
  cases hstep
  rw [ended, decide_eq_true_eq]
  exact Int.le_refl _

end Follows

/-- Agents of which each follows a walker, the two walkers side by side. -/
def Abreast (a a' : Agent) : Prop :=
  ∃ w w', a.Follows w ∧ a'.Follows w' ∧ w.Abreast w'

theorem abreast_new (b : Block) (length : Int64) (orientation : Orientation)
    (polarity : Polarity) :
    (Agent.new b.program length orientation polarity).Abreast
      (Agent.new b.unrolled.program length orientation polarity) := by
  refine ⟨_, _, follows_new b length orientation polarity,
    follows_new b.unrolled length orientation polarity, rfl, rfl, rfl, ?_⟩
  rw [Walker.new, Walker.new, Plan.chores_cons, Plan.chores_cons,
    Pending.chores, Pending.chores, b.chores_unrolled]

section Abreast

variable {a a' : Agent}

theorem Abreast.position (h : a.Abreast a') : a.position = a'.position := by
  obtain ⟨w, w', hw, hw', habreast⟩ := h
  rw [hw.1.position, hw'.1.position, habreast.position]

theorem Abreast.ended_of_plain (h : a.Abreast a') (hplain : a'.program.Plain)
    (hend : a.ended = true) : a'.ended = true := by
  obtain ⟨w, w', hw, hw', habreast⟩ := h
  exact hw'.ended_of_plain hplain (by
    rw [← habreast.chores, hw.chores_of_ended hend])

theorem Abreast.step (h : a.Abreast a') (zero : Bool) :
    ∃ a₁ a₁' change, a.step zero = .ok (a₁, change) ∧
      a'.step zero = .ok (a₁', change) ∧ a₁.Abreast a₁' := by
  obtain ⟨w, w', hw, hw', habreast⟩ := h
  obtain ⟨a₁, hstep, hw₁⟩ := hw.step zero
  obtain ⟨a₁', hstep', hw₁'⟩ := hw'.step zero
  obtain ⟨hchange, habreast₁⟩ := habreast.step zero
  rw [← hchange] at hstep'
  exact ⟨a₁, a₁', _, hstep, hstep', _, _, hw₁, hw₁', habreast₁⟩

/-- While the other has ended, an agent needs at most one more turn for it. -/
theorem Abreast.step_of_ended (h : a.Abreast a') (hend : a'.ended = true)
    (zero : Bool) :
    ∃ a₁, a.step zero = .ok (a₁, none) ∧ a₁.ended = true ∧ a₁.Abreast a' := by
  obtain ⟨w, w', hw, hw', habreast⟩ := h
  have hchores : w.plan.chores = [] := by
    rw [habreast.chores, hw'.chores_of_ended hend]
  obtain ⟨a₁, hstep, hend₁, hw₁, hsame⟩ := hw.step_of_no_chores hchores zero
  exact ⟨a₁, hstep, hend₁, _, w', hw₁, hw',
    hsame.orientation.trans habreast.orientation,
    hsame.polarity.trans habreast.polarity,
    hsame.position.trans habreast.position,
    hsame.chores.trans habreast.chores⟩

end Abreast

end Agent

end TapeDuel
