import TapeDuel.Program.Validate

/-!
# Loops of a checked program

The check of a stored program looks at one loop instruction and its partner
at a time. What it guarantees is therefore a statement about pairs: `Spans`
says that a loop opens at one place and closes at a later one, and every loop
instruction of a checked program is an end of such a span.

Pairs may still cross. What the engine needs on top of the check is
`CountsNest`: a counted loop holds both ends of another loop or neither.
Conditional loops may cross each other as they like, because nothing is
counted for them.

With both in hand, the counted loops around a place form a stack.
`Program.around` lists their starts, innermost first, and the lemmas at the
end say how that list changes from one place to the next and across a jump.
They are the only place where nesting is used: a jump between the ends of a
loop never changes what is counted around it.
-/

namespace TapeDuel.Program

/-! ## Reading the program at a place -/

theorem at?_natCast (p : Program) (k : Nat) : p.at? (k : Int) = p[k]? := by
  rw [at?, if_pos (Int.natCast_nonneg k), Int.toNat_natCast]

theorem exists_of_at?_eq_some {p : Program} {target : Int} {i : Instruction}
    (h : p.at? target = some i) : ∃ k : Nat, target = k ∧ p[k]? = some i := by
  rw [at?] at h
  split at h
  · next hpos => exact ⟨target.toNat, (Int.toNat_of_nonneg hpos).symm, h⟩
  · cases h

theorem lt_size_of_getElem? {p : Program} {k : Nat} {i : Instruction}
    (h : p[k]? = some i) : k < p.size :=
  (Array.getElem?_eq_some_iff.mp h).1

/-! ## What the check guarantees -/

/-- A loop that opens with `op` at `s` and closes at `e`. Each end names the
other. -/
structure Spans (p : Program) (op : Op) (s e : Nat) : Prop where
  lt : s < e
  opens : ∃ i, p[s]? = some i ∧ i.op = op ∧ i.target = e
  closes : ∃ i, p[e]? = some i ∧ op.partner? = some i.op ∧ i.target = s

theorem validate_eq_ok_iff {p : Program} :
    p.validate = .ok () ↔ ∀ (k : Nat) (i : Instruction), p[k]? = some i →
      p.instructionFlaw? k i = none := by
  have hnone : p.validate = .ok () ↔ p.flaw? = none := by
    rw [validate]
    cases p.flaw? <;> simp
  rw [hnone, flaw?, List.findSome?_eq_none_iff]
  constructor
  · intro h k i hi
    refine h (i, k) ?_
    rwa [List.mk_mem_zipIdx_iff_getElem?, Array.getElem?_toList]
  · rintro h ⟨i, k⟩ hmem
    rw [List.mk_mem_zipIdx_iff_getElem?, Array.getElem?_toList] at hmem
    exact h k i hmem

/-- A loop instruction of a checked program names a place that names it back,
the other way round for the other end. -/
theorem exists_partner {p : Program} (hv : p.validate = .ok ()) {k : Nat}
    {i : Instruction} (hi : p[k]? = some i) {op : Op}
    (hop : i.op.partner? = some op) :
    ∃ (t : Nat) (j : Instruction), i.target = t ∧ p[t]? = some j ∧ j.op = op ∧
      j.target = k ∧ i.op.opensLoop = decide (k < t) ∧
      (i.op = .repeatEnd → 0 ≤ i.iterations) := by
  have hflaw := validate_eq_ok_iff.mp hv k i hi
  have hloop : p.loopFlaw? k i op = none := by
    rw [instructionFlaw?] at hflaw
    split at hflaw
    · cases hflaw
    · rw [hop] at hflaw
      exact hflaw
  rw [loopFlaw?] at hloop
  split at hloop
  · cases hloop
  · next j hj =>
      obtain ⟨t, ht, hjt⟩ := exists_of_at?_eq_some hj
      split at hloop
      · cases hloop
      · next hmatch =>
          split at hloop
          · cases hloop
          · next hway =>
              split at hloop
              · cases hloop
              · next hneg =>
                  simp only [ne_eq, not_or, Decidable.not_not] at hmatch hway
                  refine ⟨t, j, ht, hjt, hmatch.2, hmatch.1, ?_, ?_⟩
                  · rw [hway, ht]
                    simp only [Int.ofNat_lt]
                  · intro hend
                    exact Int.not_lt.mp fun hlt => hneg ⟨hend, hlt⟩

theorem spans_of_opens {p : Program} (hv : p.validate = .ok ()) {s : Nat}
    {i : Instruction} (hi : p[s]? = some i) (hop : i.op.opensLoop = true) :
    ∃ e, i.target = (e : Nat) ∧ p.Spans i.op s e := by
  obtain ⟨op, hpartner⟩ : ∃ op, i.op.partner? = some op := by
    cases h : i.op <;> simp [h, Op.opensLoop, Op.partner?] at hop ⊢
  obtain ⟨e, j, ht, hj, hjop, hback, hway, -⟩ := exists_partner hv hi hpartner
  refine ⟨e, ht, ?_, ⟨i, hi, rfl, ht⟩, ⟨j, hj, ?_, hback⟩⟩
  · rw [hop] at hway
    exact of_decide_eq_true hway.symm
  · rw [hpartner, hjop]

theorem spans_of_closes {p : Program} (hv : p.validate = .ok ()) {e : Nat}
    {i : Instruction} (hi : p[e]? = some i) {op : Op}
    (hop : i.op.partner? = some op) (hclose : i.op.opensLoop = false) :
    ∃ s, i.target = (s : Nat) ∧ p.Spans op s e := by
  obtain ⟨s, j, ht, hj, hjop, hback, hway, -⟩ := exists_partner hv hi hop
  have hne : s ≠ e := by
    rintro rfl
    rw [hi] at hj
    cases hj
    cases h : i.op <;> simp [h, Op.partner?] at hop <;>
      simp [h, ← hop] at hjop
  have hle : s ≤ e := by
    rw [hclose] at hway
    exact Nat.not_lt.mp (of_decide_eq_false hway.symm)
  refine ⟨s, ht, by omega, ⟨j, hj, hjop, hback⟩, ⟨i, hi, ?_, ht⟩⟩
  cases h : i.op <;> simp [h, Op.partner?] at hop <;> simp [← hop, Op.partner?]

/-- The start of a counted loop, and where it ends. -/
theorem spans_of_repeatStart {p : Program} (hv : p.validate = .ok ()) {s : Nat}
    {i : Instruction} (hi : p[s]? = some i) (hop : i.op = .repeatStart) :
    ∃ e, i.target = (e : Nat) ∧ p.Spans .repeatStart s e := by
  obtain ⟨e, ht, hspan⟩ := spans_of_opens hv hi (by rw [hop]; rfl)
  exact ⟨e, ht, hop ▸ hspan⟩

/-- The end of a counted loop, and where it starts. -/
theorem spans_of_repeatEnd {p : Program} (hv : p.validate = .ok ()) {e : Nat}
    {i : Instruction} (hi : p[e]? = some i) (hop : i.op = .repeatEnd) :
    ∃ s, i.target = (s : Nat) ∧ p.Spans .repeatStart s e :=
  spans_of_closes hv hi (by rw [hop]; rfl) (by rw [hop]; rfl)

namespace Spans

variable {p : Program} {op : Op} {s e : Nat}

theorem start_lt_size (h : p.Spans op s e) : s < p.size := by
  obtain ⟨i, hi, -, -⟩ := h.opens
  exact lt_size_of_getElem? hi

theorem stop_lt_size (h : p.Spans op s e) : e < p.size := by
  obtain ⟨i, hi, -, -⟩ := h.closes
  exact lt_size_of_getElem? hi

/-- A place starts at most one loop. -/
theorem stop_unique {op' : Op} {e' : Nat} (h : p.Spans op s e)
    (h' : p.Spans op' s e') : e = e' := by
  obtain ⟨i, hi, -, ht⟩ := h.opens
  obtain ⟨i', hi', -, ht'⟩ := h'.opens
  rw [hi] at hi'
  cases hi'
  omega

/-- And ends at most one. -/
theorem start_unique {op' : Op} {s' : Nat} (h : p.Spans op s e)
    (h' : p.Spans op' s' e) : s = s' := by
  obtain ⟨i, hi, -, ht⟩ := h.closes
  obtain ⟨i', hi', -, ht'⟩ := h'.closes
  rw [hi] at hi'
  cases hi'
  omega

/-- No place ends one loop and starts another. -/
theorem stop_ne_start {op' : Op} {s' e' : Nat} (h : p.Spans op s e)
    (h' : p.Spans op' s' e') : e ≠ s' := by
  rintro rfl
  obtain ⟨i, hi, hop, hti⟩ := h.closes
  obtain ⟨i', hi', hop', hti'⟩ := h'.opens
  rw [hi] at hi'
  cases hi'
  have hlt := h.lt
  have hlt' := h'.lt
  omega

/-- A counted loop does not end at something that takes a turn. -/
theorem turn_ne_stop (h : p.Spans .repeatStart s e) {k : Nat} {i : Instruction}
    (hi : p[k]? = some i) (hop : i.op.isLoopControl = false) : k ≠ e := by
  rintro rfl
  obtain ⟨j, hj, hpartner, -⟩ := h.closes
  rw [hi] at hj
  cases hj
  rw [← Option.some.inj hpartner] at hop
  cases hop

/-- Nor does it start there. -/
theorem turn_ne_start (h : p.Spans .repeatStart s e) {k : Nat} {i : Instruction}
    (hi : p[k]? = some i) (hop : i.op.isLoopControl = false) : k ≠ s := by
  rintro rfl
  obtain ⟨j, hj, hjop, -⟩ := h.opens
  rw [hi] at hj
  cases hj
  rw [hjop] at hop
  cases hop

end Spans

/-! ## Nesting -/

/-- A counted loop holds both ends of another loop or neither. -/
def CountsNest (p : Program) : Prop :=
  ∀ (s k : Nat) (i j : Instruction), p[s]? = some i → i.op = .repeatStart →
    p[k]? = some j → j.op.partner?.isSome → s < k → k < i.target →
    s < j.target ∧ j.target < i.target

/-- Whether the counted loop that starts at `s` holds the loop instruction at
`k` without its partner. -/
def crosses (p : Program) (s k : Nat) : Bool :=
  match p[s]?, p[k]? with
  | some i, some j =>
    decide (i.op = .repeatStart ∧ j.op.partner?.isSome ∧ s < k ∧ k < i.target ∧
      ¬ (s < j.target ∧ j.target < i.target))
  | _, _ => false

theorem countsNest_iff_crosses (p : Program) :
    p.CountsNest ↔ ∀ s < p.size, ∀ k < p.size, p.crosses s k = false := by
  constructor
  · intro h s hs k hk
    rw [crosses]
    split
    · next i j hi hj =>
        rw [decide_eq_false_iff_not]
        rintro ⟨hop, hpartner, hlt, hend, hout⟩
        exact hout (h s k i j hi hop hj hpartner hlt hend)
    · rfl
  · intro h s k i j hi hop hj hpartner hlt hend
    have hfalse := h s (lt_size_of_getElem? hi) k (lt_size_of_getElem? hj)
    simp only [crosses, hi, hj, decide_eq_false_iff_not] at hfalse
    by_cases hin : s < j.target ∧ j.target < i.target
    · exact hin
    · exact absurd ⟨hop, hpartner, hlt, hend, hin⟩ hfalse

instance (p : Program) : Decidable p.CountsNest :=
  decidable_of_iff _ (countsNest_iff_crosses p).symm

/-- A program that passes the check and whose counted loops nest. -/
structure Sound (p : Program) : Prop where
  valid : p.validate = .ok ()
  nest : p.CountsNest

/-- The two directions of nesting on spans: what opens inside closes inside. -/
theorem CountsNest.stop_inside {p : Program} (h : p.CountsNest) {op : Op}
    {s e s' e' : Nat} (hspan : p.Spans .repeatStart s e)
    (hspan' : p.Spans op s' e') (hlo : s < s') (hhi : s' < e) : e' < e := by
  obtain ⟨i, hi, hop, ht⟩ := hspan.opens
  obtain ⟨j, hj, hjop, hjt⟩ := hspan'.opens
  obtain ⟨j', -, hpartner, -⟩ := hspan'.closes
  have hin := h s s' i j hi hop hj (by rw [hjop, hpartner]; rfl) hlo (by omega)
  omega

/-- And what closes inside opens inside. -/
theorem CountsNest.start_inside {p : Program} (h : p.CountsNest) {op : Op}
    {s e s' e' : Nat} (hspan : p.Spans .repeatStart s e)
    (hspan' : p.Spans op s' e') (hlo : s < e') (hhi : e' < e) : s < s' := by
  obtain ⟨i, hi, hop, ht⟩ := hspan.opens
  obtain ⟨j, -, hjop, -⟩ := hspan'.opens
  obtain ⟨j', hj', hpartner, hjt'⟩ := hspan'.closes
  have hback : j'.op.partner?.isSome := by
    cases hj : op <;> simp [hj, Op.partner?] at hpartner <;>
      simp [← hpartner, Op.partner?]
  have hin := h s e' i j' hi hop hj' hback hlo (by omega)
  omega

/-! ## The counted loops around a place -/

/-- Whether a counted loop that starts at `s` lasts up to the place `k`. -/
def lastsTo (p : Program) (s k : Nat) : Bool :=
  match p[s]? with
  | some i => decide (i.op = .repeatStart ∧ k ≤ i.target)
  | none => false

/-- The starts of the counted loops around a place, innermost first. The end
of a loop is still inside it. -/
def around (p : Program) (k : Nat) : List Nat :=
  ((List.range k).filter (p.lastsTo · k)).reverse

theorem mem_around {p : Program} (hv : p.validate = .ok ()) {s k : Nat} :
    s ∈ p.around k ↔ s < k ∧ ∃ e, p.Spans .repeatStart s e ∧ k ≤ e := by
  simp only [around, List.mem_reverse, List.mem_filter, List.mem_range]
  refine and_congr_right fun hlt => ?_
  rw [lastsTo]
  split
  · next i hi =>
      rw [decide_eq_true_iff]
      constructor
      · rintro ⟨hop, hle⟩
        obtain ⟨e, ht, hspan⟩ := spans_of_repeatStart hv hi hop
        exact ⟨e, hspan, by omega⟩
      · rintro ⟨e, hspan, hle⟩
        obtain ⟨i', hi', hop, ht⟩ := hspan.opens
        rw [hi] at hi'
        cases hi'
        exact ⟨hop, by omega⟩
  · next hnone =>
      refine iff_of_false (by simp) ?_
      rintro ⟨e, hspan, -⟩
      obtain ⟨i, hi, -, -⟩ := hspan.opens
      rw [hnone] at hi
      cases hi

/-- Loops that start before `k` are around `k` and `t` alike if they last to
the one when they last to the other. -/
theorem filter_lastsTo {p : Program} (hv : p.validate = .ok ()) {k t : Nat}
    (hle : k ≤ t)
    (hlast : ∀ s e, p.Spans .repeatStart s e → s < k → (t ≤ e ↔ k ≤ e)) :
    (List.range k).filter (p.lastsTo · t) =
      (List.range k).filter (p.lastsTo · k) := by
  refine List.filter_congr fun s hs => ?_
  rw [List.mem_range] at hs
  rw [Bool.eq_iff_iff]
  have hiff : s ∈ p.around t ↔ s ∈ p.around k := by
    rw [mem_around hv, mem_around hv]
    constructor
    · rintro ⟨-, e, hspan, hte⟩
      exact ⟨hs, e, hspan, (hlast s e hspan hs).mp hte⟩
    · rintro ⟨-, e, hspan, hke⟩
      exact ⟨by omega, e, hspan, (hlast s e hspan hs).mpr hke⟩
  simpa [around, hs, Nat.lt_of_lt_of_le hs hle] using hiff

/-- The loops around two places are the same if those that start before the
first last to the second when they last to the first, and those in between
are over. -/
theorem around_eq_of_le {p : Program} (hv : p.validate = .ok ()) {k t : Nat}
    (hle : k ≤ t)
    (hbefore : ∀ s e, p.Spans .repeatStart s e → s < k → k ≤ e → t ≤ e)
    (hbetween : ∀ s e, p.Spans .repeatStart s e → k ≤ s → s < t → e < t) :
    p.around t = p.around k := by
  have hrange : List.range t = List.range k ++ List.range' k (t - k) := by
    have happend := @List.range'_append_1 0 k (t - k)
    rw [Nat.zero_add, Nat.add_sub_cancel' hle] at happend
    rw [List.range_eq_range', List.range_eq_range', happend]
  have htail : (List.range' k (t - k)).filter (p.lastsTo · t) = [] := by
    rw [List.filter_eq_nil_iff]
    intro s hs hlast
    rw [List.mem_range'_1] at hs
    obtain ⟨-, e, hspan, hte⟩ := (mem_around hv).mp
      (show s ∈ p.around t by
        simpa [around] using ⟨by omega, hlast⟩)
    have := hbetween s e hspan hs.1 (by omega)
    omega
  have hhead := filter_lastsTo hv hle fun s e hspan hs =>
    ⟨fun _ => by omega, hbefore s e hspan hs⟩
  rw [around, hrange, List.filter_append, htail, List.append_nil, hhead]
  rfl

/-- Something that takes a turn is no end of a counted loop. -/
theorem around_succ_of_turn {p : Program} (hv : p.validate = .ok ()) {k : Nat}
    {i : Instruction} (hi : p[k]? = some i) (hop : i.op.isLoopControl = false) :
    p.around (k + 1) = p.around k := by
  refine around_eq_of_le hv (by omega) ?_ ?_
  · intro s e hspan hs hke
    have := hspan.turn_ne_stop hi hop
    omega
  · intro s e hspan hks hst
    have := hspan.turn_ne_start hi hop
    omega

theorem around_succ_of_start {p : Program} (hv : p.validate = .ok ())
    {s e : Nat} (hspan : p.Spans .repeatStart s e) :
    p.around (s + 1) = s :: p.around s := by
  have hhead := filter_lastsTo hv (Nat.le_succ s) fun s' e' hspan' _ => by
    have := hspan'.stop_ne_start hspan
    omega
  have hself : p.lastsTo s (s + 1) = true := by
    have hmem : s ∈ p.around (s + 1) :=
      (mem_around hv).mpr ⟨by omega, e, hspan, hspan.lt⟩
    simpa [around] using hmem
  rw [around, List.range_succ, List.filter_append, hhead]
  simp [hself, around]

namespace Sound

variable {p : Program} {s e : Nat}

/-- The end of a counted loop is inside it and inside what is around it. -/
theorem around_stop (h : p.Sound) (hspan : p.Spans .repeatStart s e) :
    p.around e = s :: p.around s := by
  have hlt := hspan.lt
  rw [← around_succ_of_start h.valid hspan]
  refine around_eq_of_le h.valid hspan.lt ?_ ?_
  · intro s' e' hspan' hs' hle
    rcases Nat.lt_or_ge s' s with hlt' | hge
    · have := h.nest.stop_inside hspan' hspan hlt' (by omega)
      omega
    · obtain rfl : s' = s := by omega
      exact Nat.le_of_eq (hspan.stop_unique hspan')
  · intro s' e' hspan' hs' hlt'
    exact h.nest.stop_inside hspan hspan' hs' hlt'

theorem around_succ_stop (h : p.Sound) (hspan : p.Spans .repeatStart s e) :
    p.around (e + 1) = p.around s := by
  have hlt := hspan.lt
  refine around_eq_of_le h.valid (by omega) ?_ ?_
  · intro s' e' hspan' hs' hle
    have hne := hspan'.stop_ne_start hspan
    have := h.nest.stop_inside hspan' hspan hs' (by omega)
    omega
  · intro s' e' hspan' hs' hlt'
    rcases Nat.eq_or_lt_of_le hs' with rfl | hs'
    · have := hspan.stop_unique hspan'
      omega
    · have hne := hspan.stop_ne_start hspan'
      have := h.nest.stop_inside hspan hspan' hs' (by omega)
      omega

/-- The two ends of a conditional loop have the same counted loops around
them. -/
theorem around_eq_of_while (h : p.Sound) (hspan : p.Spans .whileStart s e) :
    p.around e = p.around s := by
  have hlt := hspan.lt
  refine around_eq_of_le h.valid (by omega) ?_ ?_
  · intro s' e' hspan' hs' hle
    have hne := hspan'.stop_ne_start hspan
    have := h.nest.stop_inside hspan' hspan hs' (by omega)
    omega
  · intro s' e' hspan' hs' hlt'
    by_cases hin : e' < e
    · exact hin
    · exfalso
      have hne : e ≠ e' := by
        rintro rfl
        have := hspan.start_unique hspan'
        subst this
        obtain ⟨i, hi, hop, -⟩ := hspan.opens
        obtain ⟨i', hi', hop', -⟩ := hspan'.opens
        rw [hi] at hi'
        cases hi'
        rw [hop] at hop'
        cases hop'
      have := h.nest.start_inside hspan' hspan (by omega) (by omega)
      omega

end Sound

end TapeDuel.Program
