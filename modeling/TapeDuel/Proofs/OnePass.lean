import Mathlib
import TapeDuel.Proofs.AgentTurns
import TapeDuel.Proofs.Layout

/-!
# Settling is one pass

At the end of a counted loop the bookkeeping between two turns jumps back, and
a loop may ask for `2 ^ 63 - 1` passes. Still it looks at each place of a
compiled program at most once before a turn. `looks` writes down what it looks
at. For a sound bot these are the places of a free walk, which go up, and after
one jump back go up again below the place where the walk began. What the
iteration counts are does not come in: a loop that is entered again holds a
turn, and the walk ends there.
-/

namespace TapeDuel

namespace Agent

/-! ## What is looked at -/

/-- The places that settling looks at, in order. -/
def looksFrom (p : Program) (inert : Array Bool) :
    Nat → Int → List Nat → List Int
  | 0, _, _ => []
  | fuel + 1, pointer, counters =>
    if (p.size : Int) ≤ pointer then []
    else
      pointer ::
        match look p inert pointer counters with
        | .moves pointer' counters' => looksFrom p inert fuel pointer' counters'
        | .rests | .fails _ => []

/-- The places that a bot looks at before its next turn. -/
def looks (a : Agent) : List Int :=
  looksFrom a.program a.inert (patience a.program) a.pointer a.counters

/-- How often a place is followed by one that is not behind it. -/
def backJumps : List Int → Nat
  | [] | [_] => 0
  | k :: k' :: places => (if k < k' then 0 else 1) + backJumps (k' :: places)

/-- Settling needs no more patience than for the places that it looks at, and
for finding the program at its end. -/
theorem settleFrom_of_length_lt {p : Program} {inert : Array Bool}
    {spot : Int × List Nat} {fuel : Nat} :
    ∀ {fuel' : Nat} {pointer : Int} {counters : List Nat},
      settleFrom p inert fuel pointer counters = .ok spot →
      (looksFrom p inert fuel pointer counters).length < fuel' →
      settleFrom p inert fuel' pointer counters = .ok spot := by
  induction fuel with
  | zero =>
      intro fuel' pointer counters h
      rw [settleFrom] at h
      cases h
  | succ fuel ih =>
      intro fuel' pointer counters h hlt
      obtain ⟨extra, rfl⟩ : ∃ extra, fuel' = extra + 1 := ⟨fuel' - 1, by omega⟩
      rw [settleFrom_succ] at h ⊢
      rw [looksFrom] at hlt
      by_cases hover : (p.size : Int) ≤ pointer
      · rw [if_pos hover] at h ⊢
        exact h
      · rw [if_neg hover] at h hlt ⊢
        cases hlook : look p inert pointer counters with
        | rests =>
            rw [hlook] at h
            exact h
        | fails fault =>
            rw [hlook] at h
            cases h
        | moves pointer' counters' =>
            simp only [hlook, List.length_cons] at h hlt ⊢
            exact ih h (by omega)

theorem backJumps_of_pairwise {places : List Int}
    (h : places.Pairwise (· < ·)) : backJumps places = 0 := by
  induction places with
  | nil => rfl
  | cons k places ih =>
      obtain ⟨hlt, hrest⟩ := List.pairwise_cons.mp h
      cases places with
      | nil => rfl
      | cons k' places =>
          rw [backJumps, if_pos (hlt k' List.mem_cons_self), ih hrest]

theorem backJumps_of_ascends {lo hi : Nat} {places : List Nat}
    (h : Program.Ascends lo hi places) : backJumps (places.map Nat.cast) = 0 := by
  refine backJumps_of_pairwise (h.1.map _ ?_)
  intro k k' hlt
  exact Int.ofNat_lt.mpr hlt

/-- Going on somewhere else is at most one more jump back. -/
theorem backJumps_append_le (places places' : List Int) :
    backJumps (places ++ places') ≤ backJumps places + backJumps places' + 1 := by
  induction places with
  | nil =>
      rw [List.nil_append]
      omega
  | cons k places ih =>
      cases places with
      | cons k' places =>
          simp only [List.cons_append, backJumps] at ih ⊢
          omega
      | nil =>
          cases places' with
          | nil => exact Nat.zero_le _
          | cons k' places' =>
              simp only [List.cons_append, List.nil_append, backJumps]
              split <;> omega

end Agent

/-! ## The looks of a sound bot -/

namespace Program

variable {p : Program} {k k' : Nat} {counters counters' : List Nat}

theorem FreeWalk.lt_size {places : List Nat}
    (h : p.FreeWalk places k counters k' counters') :
    ∀ i ∈ places, i < p.size := by
  induction h with
  | stay => nofun
  | move first _ ih => exact List.forall_mem_cons.mpr ⟨first.lt_size, ih⟩

theorem FreeWalk.looksFrom_eq (hv : p.validate = .ok ()) {places : List Nat}
    (h : p.FreeWalk places k counters k' counters') (fuel : Nat) :
    Agent.looksFrom p p.inert (places.length + fuel) k counters =
      places.map Nat.cast ++ Agent.looksFrom p p.inert fuel k' counters' := by
  induction h with
  | stay => rw [List.length_nil, Nat.zero_add]; rfl
  | @move places k₁ k₂ _ counters₁ counters₂ _ first _ ih =>
      have hlt := first.lt_size
      rw [List.length_cons, Nat.add_right_comm, Agent.looksFrom,
        if_neg (by omega), look_of_freeMove hv first]
      dsimp only
      rw [ih]
      rfl

/-- At rest the turn that comes next is looked at, if there is one. -/
theorem AtRest.exists_looksFrom (h : p.AtRest k) (counters : List Nat) :
    ∃ last : List Nat, last.Sublist [k] ∧ (∀ i ∈ last, i < p.size) ∧
      ∀ fuel, Agent.looksFrom p p.inert (fuel + 1) k counters =
        last.map Nat.cast := by
  rcases h with hge | hturn
  · refine ⟨[], List.nil_sublist _, nofun, fun fuel => ?_⟩
    rw [Agent.looksFrom, if_pos (Int.ofNat_le.mpr hge)]
    rfl
  · have hlt := hturn.lt_size
    refine ⟨[k], List.Sublist.refl _, List.forall_mem_singleton.mpr hlt, fun fuel => ?_⟩
    rw [Agent.looksFrom, if_neg (by omega), look_of_turnAt hturn]
    rfl

theorem Ascends.sublist {lo hi hi' : Nat} {places places' : List Nat}
    (h : Ascends lo hi places) (hsub : places'.Sublist places)
    (hlt : ∀ i ∈ places', i < hi') : Ascends lo hi' places' :=
  ⟨h.1.sublist hsub, fun i hi => ⟨(h.2 i (hsub.subset hi)).1, hlt i hi⟩⟩

/-- A bot with balanced counters looks at later and later places, and then
perhaps at later and later places before the one where it stood. -/
theorem Balanced.exists_looksFrom (hp : p.Sound) (h : p.Balanced k counters) :
    ∃ forth back, Ascends k p.size forth ∧ Ascends 0 k back ∧
      ∀ fuel, p.size < fuel →
        Agent.looksFrom p p.inert fuel k counters =
          (forth ++ back).map Nat.cast := by
  obtain ⟨m, k', counters', hpath, hrest, -⟩ := h.exists_rest hp
  have hm := hpath.length_le_size hp h
  obtain ⟨places, rfl, hwalk⟩ := hpath.exists_freeWalk
  obtain ⟨last, hlast, hlt, hlooks⟩ := hrest.exists_looksFrom counters'
  obtain ⟨forth, back, hsplit, hforth, hback⟩ := hwalk.splits hp h
  -- The walk is cut after its last place, which is a turn or not looked at.
  have hsub : (places ++ last).Sublist (forth ++ back) := by
    rw [← hsplit]
    exact hlast.append_left places
  have hinside : ∀ i ∈ places ++ last, i < p.size :=
    List.forall_mem_append.mpr ⟨hwalk.lt_size, hlt⟩
  obtain ⟨forth', back', heq, hforth', hback'⟩ := List.sublist_append_iff.mp hsub
  rw [heq, List.forall_mem_append] at hinside
  refine ⟨forth', back', hforth.sublist hforth' hinside.1,
    hback.sublist hback' fun i hi => (hback.2 i (hback'.subset hi)).2, ?_⟩
  intro fuel hfuel
  obtain ⟨extra, rfl⟩ : ∃ extra, fuel = places.length + (extra + 1) :=
    ⟨fuel - places.length - 1, by omega⟩
  rw [hwalk.looksFrom_eq hp.valid, hlooks, ← heq, List.map_append]

end Program

namespace Agent

theorem settleFrom_of_settle {a s : Agent} {k : Nat} (ha : a.Checked k)
    (h : a.settle = .ok s) :
    settleFrom a.program a.inert (patience a.program) a.pointer a.counters =
      .ok (s.pointer, s.counters) := by
  rw [settle_eq ha, ← ha.inert, ← ha.pointer] at h
  cases hspot : settleFrom a.program a.inert (patience a.program) a.pointer
      a.counters with
  | error fault =>
      rw [hspot] at h
      cases h
  | ok spot =>
      rw [hspot] at h
      cases h
      rfl

theorem ended_or_atTurn_of_atRest {s : Agent} {k : Nat} (hk : s.pointer = k)
    (h : s.program.AtRest k) : s.ended = true ∨ s.atTurn = true := by
  rcases h with hge | ⟨i, hi, hop⟩
  · left
    rw [ended, hk]
    exact decide_eq_true (Int.ofNat_le.mpr hge)
  · right
    rw [atTurn, hk, Program.at?_natCast, hi]
    simp [hop]

/-- One pass over the program is enough to settle. -/
structure SettlesInOnePass (a : Agent) : Prop where
  /-- No place is looked at twice. -/
  nodup : a.looks.Nodup
  inside : ∀ k ∈ a.looks, 0 ≤ k ∧ k < a.program.size
  backJumps_le : backJumps a.looks ≤ 1
  length_le : a.looks.length ≤ a.program.size
  /-- And then the bot has settled: more patience is not needed. -/
  settles : ∃ s, a.settle = .ok s ∧ (s.ended = true ∨ s.atTurn = true) ∧
    ∀ fuel, a.looks.length < fuel →
      settleFrom a.program a.inert fuel a.pointer a.counters =
        .ok (s.pointer, s.counters)

theorem Sound.settlesInOnePass {a : Agent} {k : Nat} (ha : a.Sound k) :
    a.SettlesInOnePass := by
  have hpatience := size_lt_patience a.program
  obtain ⟨forth, back, hforth, hback, hlooks⟩ := ha.balanced.exists_looksFrom ha.program
  have heq : a.looks = (forth ++ back).map Nat.cast := by
    rw [looks, ha.inert, ha.pointer, hlooks _ hpatience]
  have hnodup : (forth ++ back).Nodup := hforth.nodup_append hback
  have hinside : ∀ i ∈ forth ++ back, i < a.program.size := by
    refine List.forall_mem_append.mpr ⟨fun i hi => (hforth.2 i hi).2, fun i hi => ?_⟩
    exact Nat.lt_of_lt_of_le (hback.2 i hi).2 ha.le
  refine ⟨?_, ?_, ?_, ?_, ?_⟩
  · rw [heq]
    exact hnodup.map fun _ _ => Int.ofNat.inj
  · rw [heq]
    refine List.forall_mem_map.mpr fun i hi => ?_
    exact ⟨Int.natCast_nonneg i, Int.ofNat_lt.mpr (hinside i hi)⟩
  · have hle := backJumps_append_le (forth.map Nat.cast) (back.map Nat.cast)
    rw [backJumps_of_ascends hforth, backJumps_of_ascends hback, ← List.map_append,
      ← heq] at hle
    exact hle
  · rw [heq, List.length_map]
    exact Program.length_le_of_nodup hnodup hinside
  · obtain ⟨m, k', counters', -, hrest, hsettle, -⟩ := ha.settle
    have hspot := settleFrom_of_settle ha.toChecked hsettle
    refine ⟨_, hsettle, ended_or_atTurn_of_atRest rfl hrest, ?_⟩
    intro fuel hfuel
    exact settleFrom_of_length_lt hspot hfuel

/-! ## Between any two turns -/

/-- The bot behind its turns, each with a bit that tells whether the cell is
zero. -/
def run (a : Agent) : List Bool → Except Fault Agent
  | [] => .ok a
  | zero :: bits =>
    match a.step zero with
    | .error fault => .error fault
    | .ok (a', _) => a'.run bits

theorem Sound.run (bits : List Bool) :
    ∀ {a : Agent} {k : Nat}, a.Sound k →
      ∃ a' k', a.run bits = .ok a' ∧ a'.program = a.program ∧ a'.Sound k' := by
  induction bits with
  | nil => exact fun ha => ⟨_, _, rfl, rfl, ha⟩
  | cons zero bits ih =>
      intro a k ha
      obtain ⟨a₁, change, k₁, hstep, h₁⟩ := ha.step zero
      obtain ⟨a', k', hrun, hprogram, h'⟩ := ih h₁
      refine ⟨a', k', ?_, hprogram.trans (step_program hstep), h'⟩
      rw [Agent.run, hstep]
      exact hrun

end Agent

/-- The bot of a compiled program never fails, and behind any sequence of turns
its bookkeeping goes over the program once at most, with one jump back at most,
whatever the iteration counts are. -/
theorem compiled_bots_settle_in_one_pass {source : Source} {p : Program}
    (h : source.compile = .ok p) (length : Int64) (orientation : Orientation)
    (polarity : Polarity) (bits : List Bool) :
    ∃ a, (Agent.new p length orientation polarity).run bits = .ok a ∧
      a.program = p ∧ a.SettlesInOnePass := by
  have hnew := Agent.sound_new (Source.sound_of_compile h) length orientation polarity
  obtain ⟨a, k, hrun, hprogram, ha⟩ := hnew.run bits
  exact ⟨a, hrun, hprogram, ha.settlesInOnePass⟩

/-- The theorem at a loop that asks for the most passes there are. Behind three
turns the bot stands at its end, and looks at three places: the end, the start
of the loop inside, and the turn in that. -/
theorem compiled_bots_settle_in_one_pass_most :
    ∃ (p : Program) (a : Agent),
      (⟨"", "((+)*2.)*9223372036854775807"⟩ : Source).compile = .ok p ∧
      (Agent.new p 10 .normal .normal).run [true, false, true] = .ok a ∧
      a.looks = [5, 1, 2] ∧ a.SettlesInOnePass := by
  have hparse : (⟨"", "((+)*2.)*9223372036854775807"⟩ : Source).parse =
      .ok (.times (.times (.act .increment .done) 2 (.act .rest .done))
        9223372036854775807 .done) := by cbv
  have hcompile := Source.compile_eq_ok_iff.mpr ⟨_, hparse, rfl⟩
  obtain ⟨a, hrun, -, hsettles⟩ :=
    compiled_bots_settle_in_one_pass hcompile 10 .normal .normal [true, false, true]
  have hlooks : (Except.ok a : Except Fault Agent).map Agent.looks =
      .ok [5, 1, 2] := by
    rw [← hrun]
    cbv
  exact ⟨_, a, hcompile, hrun, Except.ok.inj hlooks, hsettles⟩

end TapeDuel
