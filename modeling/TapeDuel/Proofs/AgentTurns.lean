import TapeDuel.Proofs.FreeMoves

/-!
# One turn of one bot

A turn is a run of free moves and then one instruction. The first half of this
module says what the instruction can do, whatever the program is: the bot moves
by at most one cell, or asks for a change of the cell it stands on, and nothing
but position, pointer and counters is touched.

The second half is about whether the turn happens at all. A bot of a checked
program fails in one way only: it *derails*, which means that its bookkeeping
strands or outlasts its patience. A bot of a sound program never does.
-/

namespace TapeDuel

namespace Orientation

@[simp] theorem movement_normal (direction : Int) :
    normal.movement direction = direction := rfl

@[simp] theorem movement_reversed_one : reversed.movement 1 = -1 := by decide

@[simp] theorem movement_reversed_neg_one : reversed.movement (-1) = 1 := by
  decide

end Orientation

namespace Agent

/-! ## What an instruction does -/

section Execute

variable (a : Agent) (i : Instruction) (zero : Bool)

@[simp] theorem execute_program : (a.execute i zero).1.program = a.program := by
  unfold execute move advance jump
  split <;> first | rfl | (split <;> rfl)

@[simp] theorem execute_inert : (a.execute i zero).1.inert = a.inert := by
  unfold execute move advance jump
  split <;> first | rfl | (split <;> rfl)

@[simp] theorem execute_counters :
    (a.execute i zero).1.counters = a.counters := by
  unfold execute move advance jump
  split <;> first | rfl | (split <;> rfl)

/-- Either the pointer goes to the next place, or a conditional loop sends it
behind the other end. -/
theorem execute_pointer :
    (a.execute i zero).1.pointer = a.pointer + 1 ∨
      (i.op = .whileStart ∨ i.op = .whileEnd) ∧
        (a.execute i zero).1.pointer = landing a.program i.target := by
  unfold execute move advance jump
  cases i.op <;> cases zero <;> simp

/-- A bot moves by at most one cell. -/
theorem execute_position :
    (a.execute i zero).1.position = a.position ∨
      (a.execute i zero).1.position = wrap64 (a.position + 1) ∨
      (a.execute i zero).1.position = wrap64 (a.position - 1) := by
  unfold execute move advance jump
  cases i.op <;> cases zero <;> cases a.orientation <;>
    simp [Int.sub_eq_add_neg]

/-- A change is a change of the cell that the bot stands on. -/
theorem execute_change {m : Mutation} (h : (a.execute i zero).2 = some m) :
    m.index = a.position := by
  unfold execute at h
  cases hop : i.op <;> simp only [hop] at h <;> cases h <;> rfl

end Execute

/-! ## Settling -/

/-- The bot with its pointer and counters somewhere else. -/
def at_ (a : Agent) (k : Nat) (counters : List Nat) : Agent :=
  { a with pointer := k, counters }

/-- A bot of a checked program, with its pointer in the program or right
behind it. -/
structure Checked (a : Agent) (k : Nat) : Prop where
  valid : a.program.validate = .ok ()
  inert : a.inert = a.program.inert
  pointer : a.pointer = k
  le : k ≤ a.program.size

theorem turnAt_of_atTurn {a : Agent} {k : Nat} (hk : a.pointer = k)
    (h : a.atTurn = true) : a.program.TurnAt k := by
  rw [atTurn, hk, Program.at?_natCast] at h
  split at h
  · next i hi => exact ⟨i, hi, by simpa using h⟩
  · cases h

/-- Looking first whether a turn is next changes nothing. -/
theorem settle_eq {a : Agent} {k : Nat} (ha : a.Checked k) :
    a.settle =
      (settleFrom a.program a.program.inert (patience a.program) k
        a.counters).map fun spot =>
          { a with pointer := spot.1, counters := spot.2 } := by
  rw [settle]
  split
  · next hturn =>
      have hrest : a.program.AtRest k := .inr (turnAt_of_atTurn ha.pointer hturn)
      have hfuel : patience a.program = (a.program.size + slack - 1) + 1 := by
        rw [patience, slack]
        omega
      rw [hfuel, Program.settleFrom_of_atRest hrest, ← ha.pointer]
      rfl
  · rw [ha.inert, ha.pointer]
    cases settleFrom a.program a.program.inert (patience a.program) k
      a.counters <;> rfl

/-- The bookkeeping strands, or goes on for longer than the bot's patience. -/
def Derails (a : Agent) (k : Nat) : Prop :=
  (∃ m k', m < patience a.program ∧
    a.program.FreePath m k a.counters k' [] ∧ a.program.Stranded k' []) ∨
  ∃ k' counters', a.program.FreePath (patience a.program) k a.counters k' counters'

/-- A bot of a checked program settles by free moves, or it derails. -/
theorem settle_cases {a : Agent} {k : Nat} (ha : a.Checked k) :
    (∃ m k' counters', a.program.FreePath m k a.counters k' counters' ∧
      a.program.AtRest k' ∧ a.settle = .ok (a.at_ k' counters')) ∨
    a.Derails k ∧
      (a.settle = .error .noCounter ∨ a.settle = .error .stalled) := by
  rw [settle_eq ha]
  rcases Program.exists_freePath ha.valid (patience a.program) k a.counters with
    ⟨m, k', counters', hm, hpath, hend⟩ | ⟨k', counters', hpath⟩
  · obtain ⟨extra, hextra⟩ : ∃ extra, patience a.program = m + (extra + 1) :=
      ⟨patience a.program - m - 1, by omega⟩
    rcases hend with hrest | hstrand
    · refine .inl ⟨m, k', counters', hpath, hrest, ?_⟩
      rw [hextra, Program.settleFrom_of_freePath ha.valid hpath,
        Program.settleFrom_of_atRest hrest]
      rfl
    · obtain ⟨rfl, hstop⟩ := hstrand
      refine .inr ⟨.inl ⟨m, k', hm, hpath, rfl, hstop⟩, .inl ?_⟩
      rw [hextra, Program.settleFrom_of_freePath ha.valid hpath,
        Program.settleFrom_of_stranded ⟨rfl, hstop⟩]
      rfl
  · refine .inr ⟨.inr ⟨k', counters', hpath⟩, .inr ?_⟩
    rw [Program.settleFrom_zero_of_freePath ha.valid hpath]
    rfl

/-- A bot that derails does not settle. -/
theorem settle_of_derails {a : Agent} {k : Nat} (ha : a.Checked k)
    (h : a.Derails k) : ∃ fault, a.settle = .error fault := by
  rw [settle_eq ha]
  rcases h with ⟨m, k', hm, hpath, hstrand⟩ | ⟨k', counters', hpath⟩
  · obtain ⟨extra, hextra⟩ : ∃ extra, patience a.program = m + (extra + 1) :=
      ⟨patience a.program - m - 1, by omega⟩
    refine ⟨.noCounter, ?_⟩
    rw [hextra, Program.settleFrom_of_freePath ha.valid hpath,
      Program.settleFrom_of_stranded hstrand]
    rfl
  · refine ⟨.stalled, ?_⟩
    rw [Program.settleFrom_zero_of_freePath ha.valid hpath]
    rfl

/-! ## The whole turn -/

/-- The turn of a bot that has settled. -/
def takeTurn (s : Agent) (zero : Bool) : Agent × Option Mutation :=
  match s.program.at? s.pointer with
  | some i => s.execute i zero
  | none => (s, none)

theorem step_of_settle {a s : Agent} (h : a.settle = .ok s) (zero : Bool) :
    a.step zero = .ok (s.takeTurn zero) := by
  rw [step, h, takeTurn]
  dsimp only
  cases s.program.at? s.pointer <;> rfl

/-- A turn fails exactly when the bot derails. -/
theorem step_error_iff {a : Agent} {k : Nat} (ha : a.Checked k) (zero : Bool) :
    (∃ fault, a.step zero = .error fault) ↔ a.Derails k := by
  constructor
  · rintro ⟨fault, hstep⟩
    rcases settle_cases ha with ⟨m, k', counters', -, -, hok⟩ | ⟨hderails, -⟩
    · rw [step_of_settle hok] at hstep
      cases hstep
    · exact hderails
  · intro hderails
    obtain ⟨fault, hfault⟩ := settle_of_derails ha hderails
    exact ⟨fault, by rw [step, hfault]⟩

theorem fault_of_step {a : Agent} {k : Nat} (ha : a.Checked k) {zero : Bool}
    {fault : Fault} (h : a.step zero = .error fault) :
    fault = .noCounter ∨ fault = .stalled := by
  rcases settle_cases ha with ⟨m, k', counters', -, -, hok⟩ | ⟨-, hno | hstall⟩
  · rw [step_of_settle hok] at h
    cases h
  · rw [step, hno] at h
    cases h
    exact .inl rfl
  · rw [step, hstall] at h
    cases h
    exact .inr rfl

/-- The settled bot of a turn that happened. -/
theorem exists_settled {a a' : Agent} {zero : Bool} {change : Option Mutation}
    (h : a.step zero = .ok (a', change)) :
    ∃ s, a.settle = .ok s ∧ s.takeTurn zero = (a', change) := by
  cases hs : a.settle with
  | error fault =>
      rw [step, hs] at h
      cases h
  | ok s =>
      rw [step_of_settle hs] at h
      exact ⟨s, rfl, Except.ok.inj h⟩

theorem settle_frame {a s : Agent} (h : a.settle = .ok s) :
    s.program = a.program ∧ s.inert = a.inert ∧
      s.orientation = a.orientation ∧ s.polarity = a.polarity ∧
      s.position = a.position := by
  rw [settle] at h
  split at h
  · cases h
    exact ⟨rfl, rfl, rfl, rfl, rfl⟩
  · split at h
    · cases h
      exact ⟨rfl, rfl, rfl, rfl, rfl⟩
    · cases h

theorem step_program {a a' : Agent} {zero : Bool} {change : Option Mutation}
    (h : a.step zero = .ok (a', change)) : a'.program = a.program := by
  obtain ⟨s, hs, hturn⟩ := exists_settled h
  obtain ⟨hprogram, -⟩ := settle_frame hs
  rw [takeTurn] at hturn
  split at hturn
  · next i _ =>
      have := s.execute_program i zero
      rw [hturn] at this
      rw [this, hprogram]
  · cases hturn
    exact hprogram

/-- A bot that stands on the tape is at most one cell off after its turn. -/
theorem step_position {a a' : Agent} {zero : Bool} {change : Option Mutation}
    (h : a.step zero = .ok (a', change)) :
    a'.position = a.position ∨ a'.position = wrap64 (a.position + 1) ∨
      a'.position = wrap64 (a.position - 1) := by
  obtain ⟨s, hs, hturn⟩ := exists_settled h
  obtain ⟨-, -, -, -, hpos⟩ := settle_frame hs
  rw [takeTurn] at hturn
  split at hturn
  · next i _ =>
      have hmove := s.execute_position i zero
      rw [hturn, hpos] at hmove
      exact hmove
  · cases hturn
    exact .inl hpos

theorem step_change {a a' : Agent} {zero : Bool} {m : Mutation}
    (h : a.step zero = .ok (a', some m)) : m.index = a.position := by
  obtain ⟨s, hs, hturn⟩ := exists_settled h
  obtain ⟨-, -, -, -, hpos⟩ := settle_frame hs
  rw [takeTurn] at hturn
  split at hturn
  · next i _ => rw [s.execute_change i zero (by rw [hturn]), hpos]
  · cases hturn

/-! ## Pointers stay in the program -/

/-- Where an instruction that takes a turn leads: to the next place, or behind
the other end of its conditional loop. -/
theorem exists_landing {p : Program} (hv : p.validate = .ok ()) {k : Nat}
    {i : Instruction} (hi : p[k]? = some i) {pointer : Int}
    (hptr : pointer = (k : Int) + 1 ∨
      (i.op = .whileStart ∨ i.op = .whileEnd) ∧
        pointer = landing p i.target) :
    ∃ t : Nat, pointer = (t + 1 : Nat) ∧ t < p.size ∧
      (t = k ∨ p.Spans .whileStart k t ∨ p.Spans .whileStart t k) := by
  rcases hptr with hnext | ⟨hstart | hstop, hland⟩
  · exact ⟨k, hnext, Program.lt_size_of_getElem? hi, .inl rfl⟩
  · obtain ⟨t, ht, hspan⟩ := Program.spans_of_opens hv hi (by rw [hstart]; rfl)
    refine ⟨t, ?_, hspan.stop_lt_size, .inr (.inl (hstart ▸ hspan))⟩
    rw [hland, ht, Program.landing_natCast hspan.stop_lt_size]
  · obtain ⟨t, ht, hspan⟩ := Program.spans_of_closes hv hi
      (show i.op.partner? = some .whileStart by rw [hstop]; rfl)
      (by rw [hstop]; rfl)
    refine ⟨t, ?_, hspan.start_lt_size, .inr (.inr hspan)⟩
    rw [hland, ht, Program.landing_natCast hspan.start_lt_size]

theorem le_size_of_freePath {p : Program} (hv : p.validate = .ok ())
    {m k k' : Nat} {counters counters' : List Nat}
    (h : p.FreePath m k counters k' counters') (hk : k ≤ p.size) :
    k' ≤ p.size := by
  induction h with
  | stay => exact hk
  | move first _ ih =>
      refine ih ?_
      cases first with
      | @skip e _ i hi hop ht =>
          obtain ⟨e', ht', hspan⟩ := Program.spans_of_repeatStart hv hi hop
          have := hspan.stop_lt_size
          omega
      | enter hi => exact Program.lt_size_of_getElem? hi
      | leave hi => exact Program.lt_size_of_getElem? hi
      | @again s count _ i hi hop ht =>
          obtain ⟨s', ht', hspan⟩ := Program.spans_of_repeatEnd hv hi hop
          have := hspan.start_lt_size
          omega

/-- The turn of a settled bot leads from its place to the next, or behind the
other end of a conditional loop. -/
theorem Checked.takeTurn {s : Agent} {k : Nat} (hs : s.Checked k)
    (zero : Bool) :
    ∃ k', (s.takeTurn zero).1.Checked k' ∧
      (s.takeTurn zero).1.program = s.program ∧
      (s.takeTurn zero).1.counters = s.counters ∧
      (k' = k ∨ ∃ t, k' = t + 1 ∧ t < s.program.size ∧ k < s.program.size ∧
        (t = k ∨ s.program.Spans .whileStart k t ∨
          s.program.Spans .whileStart t k)) := by
  rw [Agent.takeTurn, hs.pointer, Program.at?_natCast]
  split
  · next i hi =>
      have hptr := s.execute_pointer i zero
      rw [hs.pointer] at hptr
      obtain ⟨t, ht, hlt, hland⟩ := exists_landing hs.valid hi hptr
      refine ⟨t + 1, ⟨?_, ?_, ht, ?_⟩, execute_program s i zero,
        execute_counters s i zero,
        .inr ⟨t, rfl, hlt, Program.lt_size_of_getElem? hi, hland⟩⟩
      · rw [execute_program]
        exact hs.valid
      · rw [execute_inert, execute_program]
        exact hs.inert
      · rw [execute_program]
        exact hlt
  · exact ⟨k, hs, rfl, rfl, .inl rfl⟩

/-- A turn of a bot of a checked program leaves it one. -/
theorem Checked.step {a a' : Agent} {k : Nat} (ha : a.Checked k) {zero : Bool}
    {change : Option Mutation} (h : a.step zero = .ok (a', change)) :
    ∃ k', a'.Checked k' := by
  obtain ⟨s, hs, hturn⟩ := exists_settled h
  rcases settle_cases ha with ⟨m, k₁, counters₁, hpath, -, hok⟩ | ⟨-, hno | hstall⟩
  · rw [hok] at hs
    cases hs
    have hsettled : (a.at_ k₁ counters₁).Checked k₁ :=
      ⟨ha.valid, ha.inert, rfl, le_size_of_freePath ha.valid hpath ha.le⟩
    obtain ⟨k', hk', -⟩ := hsettled.takeTurn zero
    rw [hturn] at hk'
    exact ⟨k', hk'⟩
  · rw [hno] at hs
    cases hs
  · rw [hstall] at hs
    cases hs

/-! ## Sound bots never fail -/

/-- A bot of a sound program that has counted right. -/
structure Sound (a : Agent) (k : Nat) : Prop extends a.Checked k where
  nest : a.program.CountsNest
  balanced : a.program.Balanced k a.counters

theorem Sound.program {a : Agent} {k : Nat} (ha : a.Sound k) :
    a.program.Sound :=
  ⟨ha.valid, ha.nest⟩

theorem sound_new {p : Program} (hp : p.Sound) (length : Int64)
    (orientation : Orientation) (polarity : Polarity) :
    (Agent.new p length orientation polarity).Sound 0 where
  valid := hp.valid
  inert := rfl
  pointer := rfl
  le := Nat.zero_le _
  nest := hp.nest
  balanced := p.balanced_zero

theorem checked_new {p : Program} (hv : p.validate = .ok ()) (length : Int64)
    (orientation : Orientation) (polarity : Polarity) :
    (Agent.new p length orientation polarity).Checked 0 where
  valid := hv
  inert := rfl
  pointer := rfl
  le := Nat.zero_le _

theorem size_lt_patience (p : Program) : p.size < patience p := by
  rw [patience, slack]
  omega

/-- A sound bot settles by free moves and is still sound. -/
theorem Sound.settle {a : Agent} {k : Nat} (ha : a.Sound k) :
    ∃ m k' counters', a.program.FreePath m k a.counters k' counters' ∧
      a.program.AtRest k' ∧ a.settle = .ok (a.at_ k' counters') ∧
      (a.at_ k' counters').Sound k' := by
  obtain ⟨m, k', counters', hpath, hrest, hbal, hsettle⟩ :=
    ha.balanced.exists_rest ha.program
  refine ⟨m, k', counters', hpath, hrest, ?_, ?_⟩
  · rw [settle_eq ha.toChecked, hsettle _ (size_lt_patience a.program)]
    rfl
  · exact ⟨⟨ha.valid, ha.inert, rfl, hbal.1⟩, ha.nest, hbal⟩

/-- Taking a turn never changes what is counted around the pointer. -/
theorem balanced_of_landing {p : Program} (hp : p.Sound) {k t : Nat}
    {counters : List Nat} (hbal : p.Balanced k counters) (hturn : p.TurnAt k)
    (hlt : t < p.size)
    (ht : t = k ∨ p.Spans .whileStart k t ∨ p.Spans .whileStart t k) :
    p.Balanced (t + 1) counters := by
  obtain ⟨i, hi, hop⟩ := hturn
  refine ⟨hlt, ?_⟩
  have haround : p.around (t + 1) = p.around k := by
    rcases ht with rfl | hspan | hspan
    · exact Program.around_succ_of_turn hp.valid hi hop
    · obtain ⟨j, hj, hpartner, -⟩ := hspan.closes
      rw [Program.around_succ_of_turn hp.valid hj
        (by rw [← Option.some.inj hpartner]; rfl), hp.around_eq_of_while hspan]
    · obtain ⟨j, hj, hjop, -⟩ := hspan.opens
      rw [Program.around_succ_of_turn hp.valid hj (by rw [hjop]; rfl),
        hp.around_eq_of_while hspan]
  rw [haround]
  exact hbal.2

/-- The turn of a sound bot that has settled leaves it sound. -/
theorem Sound.takeTurn {s : Agent} {k : Nat} (hs : s.Sound k)
    (hrest : s.program.AtRest k) (zero : Bool) :
    ∃ k', (s.takeTurn zero).1.Sound k' := by
  obtain ⟨k', hchecked, hprogram, hcounters, hk'⟩ :=
    hs.toChecked.takeTurn zero
  refine ⟨k', hchecked, by rw [hprogram]; exact hs.nest, ?_⟩
  rw [hprogram, hcounters]
  rcases hk' with rfl | ⟨t, rfl, hlt, hk, hland⟩
  · exact hs.balanced
  · exact balanced_of_landing hs.program hs.balanced
      (hrest.resolve_left (by omega)) hlt hland

/-- A sound bot takes its turn and stays sound. -/
theorem Sound.step {a : Agent} {k : Nat} (ha : a.Sound k) (zero : Bool) :
    ∃ a' change k', a.step zero = .ok (a', change) ∧ a'.Sound k' := by
  obtain ⟨m, k₁, counters₁, -, hrest, hok, hs⟩ := ha.settle
  obtain ⟨k', hk'⟩ := hs.takeTurn hrest zero
  exact ⟨_, _, k', step_of_settle hok zero, hk'⟩

end Agent

end TapeDuel
