import TapeDuel.Proofs.ArenaSteps

/-!
# A round seen from the other side

Exchange the two bots of a round and turn the tape round, and nothing has
happened. That is true of the first state because both flags hold the same, and
of an inverted round because -128 is its own negative. From there it is true of
every step: turning round commutes with reading a cell, with a turn, with a
change of a cell, and two changes can be made in either order.

An agent turned round does the same only while it is on the tape. Positions are
kept in 64-bit registers, and counting from the other end wraps elsewhere than
counting from this one. `Arena.Within` says that no step begins off the tape.
-/

namespace TapeDuel

/-! ## Numbers and sides turned round -/

/-- A number, or its negative in an inverted round. -/
def negateIf (inverted : Bool) (value : Int8) : Int8 :=
  if inverted then -value else value

theorem negateIf_zero (inverted : Bool) : negateIf inverted 0 = 0 := by
  cases inverted <;> rfl

/-- Half way round is as far in both directions. -/
theorem negateIf_flagValue (inverted : Bool) :
    negateIf inverted Tape.flagValue = Tape.flagValue := by
  cases inverted <;> rfl

theorem negateIf_add (inverted : Bool) (x y : Int8) :
    negateIf inverted (x + y) = negateIf inverted x + negateIf inverted y := by
  cases inverted
  · rfl
  · show -(x + y) = -x + -y
    grind

theorem negateIf_beq_zero (inverted : Bool) (x : Int8) :
    (negateIf inverted x == 0) = (x == 0) := by
  cases inverted
  · rfl
  · show (-x == 0) = (x == 0)
    grind

/-- The other way along the tape. -/
def Orientation.flip : Orientation → Orientation
  | normal => reversed
  | reversed => normal

/-- A polarity as an inverted round exchanges it. -/
def Polarity.flipIf (inverted : Bool) : Polarity → Polarity
  | normal => if inverted then reversed else normal
  | reversed => if inverted then normal else reversed

theorem Orientation.movement_flip_one (o : Orientation) :
    o.flip.movement 1 = -o.movement 1 := by
  cases o <;> decide

theorem Orientation.movement_flip_neg_one (o : Orientation) :
    o.flip.movement (-1) = -o.movement (-1) := by
  cases o <;> decide

theorem Polarity.delta_flipIf (p : Polarity) (inverted : Bool) (delta : Int8) :
    (p.flipIf inverted).delta delta = negateIf inverted (p.delta delta) := by
  cases p <;> cases inverted
  · rfl
  · rfl
  · rfl
  · exact Int8.neg_neg.symm

/-! ## The tape turned round -/

/-- A change as it is on a tape of `length` cells turned round. -/
def Mutation.mirror (inverted : Bool) (length : Int) (m : Mutation) : Mutation :=
  ⟨length - 1 - m.index, negateIf inverted m.delta⟩

namespace Tape

/-- The tape read from the other end, negated in an inverted round. -/
def mirror (inverted : Bool) (t : Tape) : Tape :=
  (t.map (negateIf inverted)).reverse

variable {t t' : Tape} {inverted : Bool}

theorem size_mirror : (t.mirror inverted).size = t.size := by
  rw [mirror, Array.size_reverse, Array.size_map]

theorem getElem?_mirror {k : Nat} (h : k < t.size) :
    (t.mirror inverted)[k]? = t[t.size - 1 - k]?.map (negateIf inverted) := by
  rw [mirror, Array.getElem?_reverse (by rwa [Array.size_map]),
    Array.getElem?_map, Array.size_map]

/-- A new tape looks the same from both ends. -/
theorem mirror_new (length : Nat) :
    (Tape.new length).mirror inverted = Tape.new length := by
  have hcell : ∀ {k : Nat}, k < length → (Tape.new length)[k]? =
      some (if k = 0 ∨ k = length - 1 then flagValue else 0) := by
    intro k hk
    rw [new, Array.getElem?_setIfInBounds, Array.getElem?_setIfInBounds,
      Array.getElem?_replicate, Array.size_setIfInBounds, Array.size_replicate]
    by_cases hlast : length - 1 = k
    · rw [if_pos hlast, if_pos (by omega), if_pos (.inr hlast.symm)]
    · rw [if_neg hlast]
      by_cases hfirst : 0 = k
      · rw [if_pos hfirst, if_pos (by omega), if_pos (.inl hfirst.symm)]
      · rw [if_neg hfirst, if_pos hk, if_neg (by omega)]
  refine Array.ext_getElem? fun k => ?_
  rcases Nat.lt_or_ge k length with hk | hk
  · rw [getElem?_mirror (by rwa [size_new]), size_new, hcell (by omega),
      hcell hk, Option.map_some]
    by_cases hend : k = 0 ∨ k = length - 1
    · rw [if_pos hend, if_pos (by omega), negateIf_flagValue]
    · rw [if_neg hend, if_neg (by omega), negateIf_zero]
  · rw [Array.getElem?_eq_none (by rwa [size_mirror, size_new]),
      Array.getElem?_eq_none (by rwa [size_new])]

theorem isZero_mirror {index : Int} (hlo : 0 ≤ index) (hhi : index < t.size) :
    (t.mirror inverted).isZero (t.size - 1 - index) = t.isZero index := by
  have hplace : t.size - 1 - ((t.size : Int) - 1 - index).toNat =
      index.toNat := by omega
  rw [isZero, cell, if_pos (by omega), getElem?_mirror (by omega), hplace,
    isZero, cell, if_pos hlo]
  cases t[index.toNat]? with
  | none => rfl
  | some value => exact congrArg Except.ok (negateIf_beq_zero inverted value)

/-- Each flag is where the other was. -/
theorem flagZero_mirror (h : 0 < t.size) (side : Side) :
    (t.mirror inverted).flagZero side = t.flagZero side.other := by
  have hplace : (t.mirror inverted).flagIndex side < t.size ∧
      t.size - 1 - (t.mirror inverted).flagIndex side =
        t.flagIndex side.other := by
    cases side
    · exact ⟨h, rfl⟩
    · simp only [flagIndex, Side.other, size_mirror]
      omega
  rw [flagZero, getElem?_mirror hplace.1, hplace.2, flagZero]
  cases t[t.flagIndex side.other]? with
  | none => rfl
  | some value => exact congrArg Except.ok (negateIf_beq_zero inverted value)

theorem apply_eq_ok_iff {m : Mutation} :
    t.apply m = .ok t' ↔ (0 ≤ m.index ∧ m.index < t.size) ∧
      t' = t.modify m.index.toNat (· + m.delta) := by
  rw [apply]
  constructor
  · intro h
    split at h
    · cases h
      exact ⟨by omega, rfl⟩
    · cases h
  · rintro ⟨hon, rfl⟩
    rw [if_pos (by omega)]

/-- Changing a cell and turning the tape round commute. -/
theorem apply_mirror {m : Mutation} (h : t.apply m = .ok t') :
    (t.mirror inverted).apply (m.mirror inverted t.size) =
      .ok (t'.mirror inverted) := by
  obtain ⟨⟨hlo, hhi⟩, rfl⟩ := apply_eq_ok_iff.mp h
  refine apply_eq_ok_iff.mpr ⟨?_, Array.ext_getElem? fun k => ?_⟩
  · rw [size_mirror]
    simp only [Mutation.mirror]
    omega
  · rcases Nat.lt_or_ge k t.size with hk | hk
    · rw [getElem?_mirror (by rwa [Array.size_modify]), Array.getElem?_modify,
        Array.getElem?_modify, Array.size_modify, getElem?_mirror hk]
      have hsame : (m.mirror inverted t.size).index.toNat = k ↔
          m.index.toNat = t.size - 1 - k := by
        simp only [Mutation.mirror]
        omega
      by_cases hat : m.index.toNat = t.size - 1 - k
      · rw [if_pos hat, if_pos (hsame.mpr hat), Option.map_map, Option.map_map]
        exact congrArg (Option.map · _)
          (funext fun x => negateIf_add inverted x m.delta)
      · rw [if_neg hat, if_neg (hat ∘ hsame.mp)]
    · rw [Array.getElem?_eq_none (by rwa [size_mirror, Array.size_modify]),
        Array.getElem?_eq_none (by rwa [Array.size_modify, size_mirror])]

/-- Two changes can be made in either order. -/
theorem apply_comm {t₁ t₂ : Tape} {m m' : Mutation} (h : t.apply m = .ok t₁)
    (h' : t₁.apply m' = .ok t₂) :
    ∃ t₁', t.apply m' = .ok t₁' ∧ t₁'.apply m = .ok t₂ := by
  obtain ⟨hon, rfl⟩ := apply_eq_ok_iff.mp h
  obtain ⟨hon', rfl⟩ := apply_eq_ok_iff.mp h'
  rw [Array.size_modify] at hon'
  refine ⟨_, apply_eq_ok_iff.mpr ⟨hon', rfl⟩, apply_eq_ok_iff.mpr ⟨?_, ?_⟩⟩
  · rwa [Array.size_modify]
  · refine Array.ext_getElem? fun k => ?_
    rw [Array.getElem?_modify, Array.getElem?_modify, Array.getElem?_modify,
      Array.getElem?_modify]
    split
    · split
      · rw [Option.map_map, Option.map_map]
        refine congrArg (Option.map · _) (funext fun x => ?_)
        show x + m.delta + m'.delta = x + m'.delta + m.delta
        grind
      · rfl
    · rfl

end Tape

/-! ## A bot turned round -/

namespace Agent

/-- The bot as it is on a tape of `length` cells turned round. -/
def mirror (inverted : Bool) (length : Int) (a : Agent) : Agent :=
  { a with
    orientation := a.orientation.flip
    polarity := a.polarity.flipIf inverted
    position := length - 1 - a.position }

variable {a a' : Agent} {inverted : Bool} {length : Int}

/-- A bot starts at the end of the tape that it looks away from. -/
theorem mirror_new (inverted : Bool) (p : Program) {length : Int64}
    (hlast : (length - 1).toInt = length.toInt - 1) (orientation : Orientation)
    (polarity : Polarity) :
    (Agent.new p length orientation polarity).mirror inverted length.toInt =
      Agent.new p length orientation.flip (polarity.flipIf inverted) := by
  cases orientation
  · simp [mirror, new, Orientation.flip, hlast]
  · simp [mirror, new, Orientation.flip, hlast]

theorem offTape_mirror :
    (a.mirror inverted length).offTape length = a.offTape length := by
  have hposition : (a.mirror inverted length).position =
      length - 1 - a.position := rfl
  rw [Bool.eq_iff_iff, offTape, offTape, hposition]
  simp only [Bool.or_eq_true, decide_eq_true_eq]
  omega

/-- Settling looks at the program only. -/
theorem settle_mirror (a : Agent) :
    (a.mirror inverted length).settle = a.settle.map (mirror inverted length) := by
  have hturn : (a.mirror inverted length).atTurn = a.atTurn := rfl
  have hsettle : ∀ fuel,
      settleFrom (a.mirror inverted length).program
        (a.mirror inverted length).inert fuel
        (a.mirror inverted length).pointer
        (a.mirror inverted length).counters =
      settleFrom a.program a.inert fuel a.pointer a.counters := fun _ => rfl
  have hpatience : patience (a.mirror inverted length).program =
      patience a.program := rfl
  rw [settle, hturn, hsettle, hpatience, settle]
  split
  · rfl
  · generalize settleFrom a.program a.inert (patience a.program) a.pointer
      a.counters = spot
    cases spot <;> rfl

/-- Counted from the other end, a move goes the other way. -/
theorem move_mirror {direction : Int} (hlo : 0 ≤ a.position)
    (hhi : a.position < length) (hlength : length < 9223372036854775808)
    (hdirection : direction = 1 ∨ direction = -1) :
    (a.mirror inverted length).move direction =
      (a.move direction).mirror inverted length := by
  have hmove : a.orientation.flip.movement direction =
      -a.orientation.movement direction := by
    rcases hdirection with rfl | rfl
    · exact a.orientation.movement_flip_one
    · exact a.orientation.movement_flip_neg_one
  have hone : a.orientation.movement direction = 1 ∨
      a.orientation.movement direction = -1 := by
    rcases hdirection with rfl | rfl <;> cases a.orientation <;> decide
  have hposition : wrap64 (length - 1 - a.position +
        a.orientation.flip.movement direction) =
      length - 1 - wrap64 (a.position + a.orientation.movement direction) := by
    rw [hmove, wrap64_eq_self (by omega) (by omega),
      wrap64_eq_self (by omega) (by omega)]
    omega
  simp only [move, mirror, hposition]

theorem execute_mirror (i : Instruction) (zero : Bool) (hlo : 0 ≤ a.position)
    (hhi : a.position < length) (hlength : length < 9223372036854775808) :
    (a.mirror inverted length).execute i zero =
      ((a.execute i zero).1.mirror inverted length,
        (a.execute i zero).2.map (Mutation.mirror inverted length)) := by
  unfold execute
  cases i.op with
  | moveBack =>
      exact congrArg (·, none) (move_mirror hlo hhi hlength (.inr rfl))
  | moveForward =>
      exact congrArg (·, none) (move_mirror hlo hhi hlength (.inl rfl))
  | increment | decrement =>
      refine Prod.ext rfl ?_
      exact congrArg (fun delta => some (Mutation.mk _ delta))
        (a.polarity.delta_flipIf inverted _)
  | whileStart | whileEnd => cases zero <;> rfl
  | rest | repeatStart | repeatEnd | unknown => rfl

/-- A turn of a bot turned round is the turn turned round. -/
theorem step_mirror {zero : Bool} {change : Option Mutation}
    (h : a.step zero = .ok (a', change)) (hlo : 0 ≤ a.position)
    (hhi : a.position < length) (hlength : length < 9223372036854775808) :
    (a.mirror inverted length).step zero =
      .ok (a'.mirror inverted length,
        change.map (Mutation.mirror inverted length)) := by
  obtain ⟨s, hs, hturn⟩ := exists_settled h
  obtain ⟨-, -, -, -, hposition⟩ := settle_frame hs
  have hs' : (a.mirror inverted length).settle =
      .ok (s.mirror inverted length) := by
    rw [settle_mirror, hs]
    rfl
  have hat : (s.mirror inverted length).program.at?
      (s.mirror inverted length).pointer = s.program.at? s.pointer := rfl
  rw [takeTurn] at hturn
  rw [step_of_settle hs', takeTurn, hat]
  cases hi : s.program.at? s.pointer with
  | none =>
      rw [hi] at hturn
      cases hturn
      rfl
  | some i =>
      rw [hi] at hturn
      show Except.ok ((s.mirror inverted length).execute i zero) = _
      rw [execute_mirror i zero (hposition ▸ hlo) (hposition ▸ hhi) hlength,
        show s.execute i zero = (a', change) from hturn]

end Agent

/-! ## A round turned round -/

theorem Verdict.isFinished_swap (v : Verdict) :
    v.swap.isFinished = v.isFinished :=
  Bool.or_comm _ _

namespace Arena

/-- The round with its tape turned round and its sides exchanged. -/
def mirror (inverted : Bool) (r : Arena) : Arena where
  tape := r.tape.mirror inverted
  a := r.b.mirror inverted r.tape.size
  b := r.a.mirror inverted r.tape.size
  steps := r.steps
  maxSteps := r.maxSteps
  verdict := r.verdict.swap

/-- A round of the same bots with exchanged sides starts turned round. -/
theorem mirror_new {params : RoundParams} (hparams : params.flaw? = none)
    (a b : Program) :
    (Arena.new a b params).mirror params.inverted = Arena.new b a params := by
  have hwithin : (Arena.new a b params).Within (fun _ => True) params :=
    within_new hparams trivial trivial
  have hlast := RoundParams.toInt_last hparams
  have hA := Agent.mirror_new params.inverted b hlast .reversed params.polarityB
  have hB := Agent.mirror_new params.inverted a hlast .normal .normal
  have hpolarity : params.polarityB.flipIf params.inverted = .normal := by
    rw [RoundParams.polarityB]
    cases params.inverted <;> rfl
  rw [hpolarity] at hA
  rw [mirror, hwithin.size]
  show Arena.mk (Tape.mirror _ (Tape.new _)) (Agent.mirror _ _ (Agent.new b ..))
    (Agent.mirror _ _ (Agent.new a ..)) .. = _
  rw [Tape.mirror_new, hA, hB]
  rfl

section Turn

variable {t t₁ t₂ : Tape} {a a' : Agent} {inverted : Bool}
  {change change' : Option Mutation}

/-- A change of a tape turned round, if there is one. -/
theorem applyTo_mirror (h : applyTo t change = .ok t₁) :
    applyTo (t.mirror inverted)
        (change.map (Mutation.mirror inverted t.size)) =
      .ok (t₁.mirror inverted) := by
  cases change with
  | none =>
      cases h
      rfl
  | some m => exact Tape.apply_mirror h

theorem applyTo_comm (h : applyTo t change = .ok t₁)
    (h' : applyTo t₁ change' = .ok t₂) :
    ∃ t₁', applyTo t change' = .ok t₁' ∧ applyTo t₁' change = .ok t₂ := by
  match change, change' with
  | none, _ =>
      cases h
      exact ⟨t₂, h', rfl⟩
  | some m, none =>
      cases h'
      exact ⟨t, rfl, h⟩
  | some m, some m' => exact Tape.apply_comm h h'

theorem turn_mirror (h : turn t a = .ok (a', change)) (hlo : 0 ≤ a.position)
    (hhi : a.position < t.size) (hsize : t.size < 9223372036854775808) :
    turn (t.mirror inverted) (a.mirror inverted t.size) =
      .ok (a'.mirror inverted t.size,
        change.map (Mutation.mirror inverted t.size)) := by
  refine turn_eq_ok_iff.mpr ?_
  rcases turn_eq_ok_iff.mp h with ⟨hend, rfl, rfl⟩ | ⟨hend, zero, hzero, hstep⟩
  · exact .inl ⟨hend, rfl, rfl⟩
  · refine .inr ⟨hend, zero, ?_, ?_⟩
    · rw [← hzero]
      exact Tape.isZero_mirror hlo hhi
    · exact Agent.step_mirror hstep hlo hhi (by omega)

end Turn

section Step

variable {I : Agent → Prop} {params : RoundParams} {r r' : Arena}
  {inverted : Bool}

theorem advance_mirror (h : r.Within I params)
    (hgoing : r.verdict.isFinished = false) (hsize : 0 < r.tape.size)
    (hadv : r.advance = .ok r') :
    (r.mirror inverted).advance = .ok (r'.mirror inverted) := by
  obtain ⟨aWas, bWas, a, aChange, b, bChange, middle, tape, aIs, bIs, haWas,
    hbWas, hta, htb, hmiddle, htape, haIs, hbIs, rfl⟩ := advance_eq_ok_iff.mp hadv
  obtain ⟨haLo, haHi⟩ := h.onTapeA hgoing
  obtain ⟨hbLo, hbHi⟩ := h.onTapeB hgoing
  -- Seen from the other side the change of `b` is made first.
  obtain ⟨middle', hmiddle', htape'⟩ := applyTo_comm hmiddle htape
  have hsize₁ : middle'.size = r.tape.size := size_of_applyTo hmiddle'
  have hsize₂ : tape.size = r.tape.size :=
    (size_of_applyTo htape').trans hsize₁
  have hmirrorA : applyTo (r.tape.mirror inverted)
      (bChange.map (Mutation.mirror inverted r.tape.size)) =
      .ok (middle'.mirror inverted) := applyTo_mirror hmiddle'
  have hmirrorB : applyTo (middle'.mirror inverted)
      (aChange.map (Mutation.mirror inverted r.tape.size)) =
      .ok (tape.mirror inverted) := hsize₁ ▸ applyTo_mirror htape'
  refine advance_eq_ok_iff.mpr ⟨bWas, aWas, _, _, _, _, _, _, bIs, aIs,
    (Tape.flagZero_mirror hsize .a).trans hbWas,
    (Tape.flagZero_mirror hsize .b).trans haWas,
    turn_mirror htb hbLo hbHi h.size_lt, turn_mirror hta haLo haHi h.size_lt,
    hmirrorA, hmirrorB,
    (Tape.flagZero_mirror (by omega) .a).trans hbIs,
    (Tape.flagZero_mirror (by omega) .b).trans haIs, ?_⟩
  simp only [mirror, Verdict.swap, Tape.size_mirror, hsize₂,
    Agent.offTape_mirror]

theorem inSink_mirror (hsize : 0 < r.tape.size) :
    (r.mirror inverted).inSink = r.inSink := by
  have hended : ((r.mirror inverted).a.ended && (r.mirror inverted).b.ended) =
      (r.a.ended && r.b.ended) := Bool.and_comm _ _
  obtain ⟨aZero, haZero⟩ := Tape.exists_flagZero hsize .a
  obtain ⟨bZero, hbZero⟩ := Tape.exists_flagZero hsize .b
  have hflagA : (r.mirror inverted).tape.flagZero .a = .ok bZero :=
    (Tape.flagZero_mirror hsize .a).trans hbZero
  have hflagB : (r.mirror inverted).tape.flagZero .b = .ok aZero :=
    (Tape.flagZero_mirror hsize .b).trans haZero
  rw [inSink, hended, hflagA, hflagB, inSink, haZero, hbZero]
  simp only [Bool.and_comm]

/-- A step of a round turned round is the step turned round. -/
theorem step_mirror (h : r.Within I params) (hparams : params.flaw? = none)
    (hstep : r.step = .ok r') :
    (r.mirror inverted).step = .ok (r'.mirror inverted) := by
  have hsize := h.size_pos hparams
  have hfinished : (r.mirror inverted).verdict.isFinished =
      r.verdict.isFinished := r.verdict.isFinished_swap
  rw [step, hfinished]
  rcases step_cases hstep with ⟨hfin, rfl⟩ | ⟨hgoing, hover, rfl⟩ |
    ⟨hgoing, hleft, hsink, hadv⟩
  · rw [if_pos hfin]
  · rw [if_neg (by rw [hgoing]; exact Bool.false_ne_true)]
    by_cases hbudget : r.maxSteps ≤ r.steps
    · exact if_pos hbudget
    · refine (if_neg hbudget).trans ?_
      rw [inSink_mirror hsize, hover.resolve_left hbudget]
      rfl
  · rw [if_neg (by rw [hgoing]; exact Bool.false_ne_true)]
    refine (if_neg (Int.not_le.mpr hleft)).trans ?_
    rw [inSink_mirror hsize, hsink]
    exact advance_mirror h hgoing hsize hadv

/-- So is a run. -/
theorem run_mirror
    (hkeeps : ∀ a zero a' change, I a → a.step zero = .ok (a', change) → I a')
    (hparams : params.flaw? = none) {n : Nat} :
    ∀ {r r' : Arena}, r.Within I params → r.run n = .ok r' →
      (r.mirror inverted).run n = .ok (r'.mirror inverted) := by
  induction n with
  | zero =>
      intro r r' _ hrun
      cases hrun
      rfl
  | succ n ih =>
      intro r r' h hrun
      obtain ⟨r₁, hstep, hrest⟩ := run_succ_eq_ok_iff.mp hrun
      rw [run_of_step (step_mirror h hparams hstep)]
      exact ih (within_step h hkeeps hstep) hrest

end Step

end Arena

end TapeDuel
