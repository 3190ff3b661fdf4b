import TapeDuel.Engine.Agent
import TapeDuel.Proofs.Nesting

/-!
# What the scan for inert loops finds

The scan keeps a stack of open counted loops and pops it at every loop end,
without ever looking at targets. In a sound program its stack is the list of
loops around the place it has come to, so it pops exactly the loop that ends
there.

The engine relies on one direction of the answer: a counted loop that is not
marked runs at least once and holds something that takes a turn, at a place
where no marked loop is around it inside that loop. That is what makes the
bookkeeping between two turns end, and it is `busy_of_not_inertAt`. The
invariant says the same of every loop already closed, and of every open loop
whose flag is set, relative to what has been scanned.
-/

namespace TapeDuel.Program

/-- Whether the counted loop that starts at `s` is skipped whole. -/
def inertAt (p : Program) (s : Nat) : Bool :=
  p.inert.getD s false

/-- The number of passes of the counted loop that starts at `s`. -/
def passes (p : Program) (s : Nat) : Int :=
  match p[s]? with
  | some i =>
    match p.at? i.target with
    | some j => j.iterations
    | none => 0
  | none => 0

theorem passes_eq {p : Program} {s e : Nat} (hspan : p.Spans .repeatStart s e)
    {i : Instruction} (hi : p[e]? = some i) : p.passes s = i.iterations := by
  obtain ⟨j, hj, -, ht⟩ := hspan.opens
  rw [passes, hj]
  simp only [ht, at?_natCast, hi]

/-- Inner loops start later, so the list of starts goes down. -/
theorem pairwise_around (p : Program) (k : Nat) :
    (p.around k).Pairwise (· > ·) := by
  rw [around, List.pairwise_reverse]
  exact List.Pairwise.filter _ List.pairwise_lt_range

theorem le_of_around_eq_cons {p : Program} {k s s' : Nat} {rest : List Nat}
    (h : p.around k = s :: rest) (hmem : s' ∈ p.around k) : s' ≤ s := by
  have hpair := p.pairwise_around k
  rw [h] at hpair hmem
  rcases List.mem_cons.mp hmem with rfl | hrest
  · exact Nat.le_refl _
  · exact Nat.le_of_lt (List.rel_of_pairwise_cons hpair hrest)

theorem getD_setIfInBounds_of_ne {inert : Array Bool} {k n : Nat} {value : Bool}
    (h : n ≠ k) :
    (inert.setIfInBounds k value).getD n false = inert.getD n false := by
  simp [Array.getD_eq_getD_getElem?, Ne.symm h]

theorem getD_setIfInBounds_self {inert : Array Bool} {k : Nat} (value : Bool)
    (h : k < inert.size) :
    (inert.setIfInBounds k value).getD k false = value := by
  simp [Array.getD_eq_getD_getElem?, h]

/-- The loop at `s` holds a turn before the place `k`, and every counted loop
that is around that turn and inside the loop is closed before `k` and not
marked. -/
def Busy (p : Program) (k : Nat) (inert : Array Bool) (s : Nat) : Prop :=
  ∃ (j : Nat) (i : Instruction), s ∈ p.around j ∧ j < k ∧ p[j]? = some i ∧
    i.op.isLoopControl = false ∧
    ∀ s' ∈ p.around j, s < s' →
      (∀ e, p.Spans .repeatStart s' e → e < k) ∧ inert.getD s' false = false

/-- Marks are only made for loops that are still open, so what was found stays
found. -/
theorem Busy.mono {p : Program} (hv : p.validate = .ok ()) {k k' : Nat}
    {inert inert' : Array Bool} {s : Nat} (h : p.Busy k inert s)
    (hle : k ≤ k')
    (hsame : ∀ s' e, p.Spans .repeatStart s' e → e < k →
      inert'.getD s' false = inert.getD s' false) :
    p.Busy k' inert' s := by
  obtain ⟨j, i, hmem, hjk, hi, hop, hinner⟩ := h
  refine ⟨j, i, hmem, by omega, hi, hop, ?_⟩
  intro s' hs' hlt
  obtain ⟨hclosed, hfalse⟩ := hinner s' hs' hlt
  obtain ⟨-, e, hspan, -⟩ := (mem_around hv).mp hs'
  refine ⟨fun e' hspan' => Nat.lt_of_lt_of_le (hclosed e' hspan') hle, ?_⟩
  rw [hsame s' e hspan (hclosed e hspan), hfalse]

theorem Busy.succ {p : Program} (hv : p.validate = .ok ()) {k s : Nat}
    {inert : Array Bool} (h : p.Busy k inert s) : p.Busy (k + 1) inert s :=
  h.mono hv (Nat.le_succ k) fun _ _ _ _ => rfl

/-- The mark of a loop that closes at `k` is none of an earlier one. -/
theorem Busy.mark {p : Program} (hv : p.validate = .ok ()) {k s s₀ : Nat}
    {inert : Array Bool} (h : p.Busy k inert s) (hspan₀ : p.Spans .repeatStart s₀ k)
    (value : Bool) : p.Busy (k + 1) (inert.setIfInBounds s₀ value) s := by
  refine h.mono hv (Nat.le_succ k) fun s' e hspan hlt => getD_setIfInBounds_of_ne ?_
  rintro rfl
  have := hspan.stop_unique hspan₀
  omega

/-- When a loop closes unmarked at `k`, its turn counts for the loop around it
as well. -/
theorem Busy.outward {p : Program} (hp : p.Sound) {k s x : Nat}
    {outer : List Nat} {inert inert' : Array Bool} (h : p.Busy k inert s)
    (hspan : p.Spans .repeatStart s k) (hcons : p.around s = x :: outer)
    (hsame : ∀ s', s' ≠ s → inert'.getD s' false = inert.getD s' false)
    (hnot : inert'.getD s false = false) : p.Busy (k + 1) inert' x := by
  obtain ⟨j, i, hj, hjk, hi, hop, hinner⟩ := h
  have hx : x ∈ p.around s := by
    rw [hcons]
    exact List.mem_cons_self
  obtain ⟨hxlt, ex, hspanx, hlex⟩ := (mem_around hp.valid).mp hx
  obtain ⟨hsj, -, -, -⟩ := (mem_around hp.valid).mp hj
  have hexk : k < ex := by
    have := hspanx.stop_ne_start hspan
    exact hp.nest.stop_inside hspanx hspan hxlt (by omega)
  refine ⟨j, i, (mem_around hp.valid).mpr ⟨by omega, ex, hspanx, by omega⟩,
    by omega, hi, hop, ?_⟩
  intro s' hs' hlt
  rcases Nat.lt_trichotomy s' s with hbelow | rfl | habove
  · -- Nothing lies between the loop and the one around it.
    obtain ⟨-, e', hspan', hje'⟩ := (mem_around hp.valid).mp hs'
    have hmem : s' ∈ p.around s :=
      (mem_around hp.valid).mpr ⟨hbelow, e', hspan', by omega⟩
    have := le_of_around_eq_cons hcons hmem
    omega
  · refine ⟨fun e hspan' => ?_, hnot⟩
    have := hspan'.stop_unique hspan
    omega
  · obtain ⟨hclosed, hfalse⟩ := hinner s' hs' habove
    refine ⟨fun e hspan' => Nat.lt_succ_of_lt (hclosed e hspan'), ?_⟩
    rw [hsame s' (by omega), hfalse]

/-- What holds of a scan that has come to the place `k`. -/
structure Scanned (p : Program) (k : Nat) (scan : InertScan) : Prop where
  place : scan.place = k
  size : scan.inert.size = p.size
  opened : scan.opened.map ScannedLoop.start = p.around k
  turns : ∀ loop ∈ scan.opened, loop.takesTurn = true →
    p.Busy k scan.inert loop.start
  closed : ∀ s e, p.Spans .repeatStart s e → e < k →
    scan.inert.getD s false = false →
    0 < p.passes s ∧ p.Busy k scan.inert s

theorem scanned_start (p : Program) : p.Scanned 0 (.start p.size) where
  place := rfl
  size := Array.size_replicate
  opened := rfl
  turns := by
    intro loop hmem
    cases hmem
  closed := by
    intro s e _ hlt
    exact absurd hlt (Nat.not_lt_zero e)

/-- Noting a turn sets the flag of the innermost loop and no other. -/
theorem mem_noteTurn {loops : List ScannedLoop} {loop : ScannedLoop}
    (h : loop ∈ InertScan.noteTurn loops) :
    loop ∈ loops ∨ loops.head?.map ScannedLoop.start = some loop.start := by
  match loops with
  | [] => exact .inl h
  | top :: rest =>
      rcases List.mem_cons.mp h with rfl | hrest
      · exact .inr rfl
      · exact .inl (List.mem_cons_of_mem _ hrest)

theorem map_start_noteTurn (loops : List ScannedLoop) :
    (InertScan.noteTurn loops).map ScannedLoop.start =
      loops.map ScannedLoop.start := by
  cases loops <;> rfl

/-! ## One instruction -/

section Visit

variable {p : Program} {k : Nat} {scan : InertScan} {i : Instruction}

theorem scanned_visit_turn (hp : p.Sound) (h : p.Scanned k scan)
    (hi : p[k]? = some i) (hop : i.op.isLoopControl = false) :
    p.Scanned (k + 1) (scan.visit i) := by
  have hvisit : scan.visit i = { scan with
      place := scan.place + 1, opened := InertScan.noteTurn scan.opened } := by
    rw [InertScan.visit]
    split
    · next hop' => rw [hop'] at hop; cases hop
    · next hop' => rw [hop'] at hop; cases hop
    · rfl
  rw [hvisit]
  refine ⟨congrArg (· + 1) h.place, h.size, ?_, ?_, ?_⟩
  · rw [map_start_noteTurn, h.opened, around_succ_of_turn hp.valid hi hop]
  · intro loop hmem hturn
    rcases mem_noteTurn hmem with hold | htop
    · exact (h.turns loop hold hturn).succ hp.valid
    · -- The innermost loop: this very instruction is its turn.
      rw [← List.head?_map, h.opened] at htop
      obtain ⟨rest, hcons⟩ := List.head?_eq_some_iff.mp htop
      refine ⟨k, i, by rw [hcons]; exact List.mem_cons_self, by omega, hi, hop, ?_⟩
      intro s' hs' hlt
      have := le_of_around_eq_cons hcons hs'
      omega
  · intro s e hspan hlt hfalse
    have hne := hspan.turn_ne_stop hi hop
    obtain ⟨hpos, hbusy⟩ := h.closed s e hspan (by omega) hfalse
    exact ⟨hpos, hbusy.succ hp.valid⟩

theorem scanned_visit_start (hp : p.Sound) (h : p.Scanned k scan)
    (hi : p[k]? = some i) (hop : i.op = .repeatStart) :
    p.Scanned (k + 1) (scan.visit i) := by
  obtain ⟨e₀, -, hspan₀⟩ := spans_of_repeatStart hp.valid hi hop
  have hvisit : scan.visit i = { scan with
      place := scan.place + 1, opened := ⟨scan.place, false⟩ :: scan.opened } := by
    rw [InertScan.visit, hop]
  rw [hvisit]
  refine ⟨congrArg (· + 1) h.place, h.size, ?_, ?_, ?_⟩
  · rw [List.map_cons, h.opened, h.place,
      around_succ_of_start hp.valid hspan₀]
  · intro loop hmem hturn
    rcases List.mem_cons.mp hmem with rfl | hold
    · cases hturn
    · exact (h.turns loop hold hturn).succ hp.valid
  · intro s e hspan hlt hfalse
    have hne : e ≠ k := hspan.stop_ne_start hspan₀
    obtain ⟨hpos, hbusy⟩ := h.closed s e hspan (by omega) hfalse
    exact ⟨hpos, hbusy.succ hp.valid⟩

/-- At the end of a loop the loop itself is on top of the stack. -/
theorem Scanned.opened_at_stop (hp : p.Sound) (h : p.Scanned k scan) {s : Nat}
    (hspan : p.Spans .repeatStart s k) :
    ∃ top rest, scan.opened = top :: rest ∧ top.start = s ∧
      rest.map ScannedLoop.start = p.around s := by
  have hopened := h.opened
  rw [hp.around_stop hspan] at hopened
  cases hcase : scan.opened with
  | nil =>
      rw [hcase] at hopened
      cases hopened
  | cons top rest =>
      rw [hcase, List.map_cons] at hopened
      obtain ⟨htop, hrest⟩ := List.cons.inj hopened
      exact ⟨top, rest, rfl, htop, hrest⟩

/-- A loop that is not marked at its end was found to hold a turn while it was open. -/
theorem Scanned.busy_of_unmarked (h : p.Scanned k scan) (hi : p[k]? = some i)
    {top : ScannedLoop} {rest : List ScannedLoop} (hopened : scan.opened = top :: rest)
    (hspan : p.Spans .repeatStart top.start k)
    (hmark : (!top.takesTurn || decide (i.iterations ≤ 0)) = false) :
    0 < p.passes top.start ∧ p.Busy k scan.inert top.start := by
  rw [Bool.or_eq_false_iff, Bool.not_eq_false'] at hmark
  refine ⟨?_, h.turns top ?_ hmark.1⟩
  · rw [passes_eq hspan hi]
    exact Int.not_le.mp (of_decide_eq_false hmark.2)
  · rw [hopened]
    exact List.mem_cons_self

/-- A loop end pops its own loop, marks it or not, and passes an unmarked loop
on as a turn of the loop around it. -/
theorem scanned_visit_stop (hp : p.Sound) (h : p.Scanned k scan)
    (hi : p[k]? = some i) (hop : i.op = .repeatEnd) :
    p.Scanned (k + 1) (scan.visit i) := by
  obtain ⟨s₀, -, hspan₀⟩ := spans_of_repeatEnd hp.valid hi hop
  have hs₀ : s₀ < scan.inert.size := by
    rw [h.size]
    exact hspan₀.start_lt_size
  obtain ⟨top, rest, hopened, rfl, hrest⟩ := h.opened_at_stop hp hspan₀
  have hunmarked := h.busy_of_unmarked hi hopened hspan₀
  generalize hmark : (!top.takesTurn || decide (i.iterations ≤ 0)) = mark at hunmarked
  have hvisit : scan.visit i =
      { place := scan.place + 1
        opened := if mark then rest else InertScan.noteTurn rest
        inert := scan.inert.setIfInBounds top.start mark } := by
    rw [InertScan.visit, hop]
    simp only [hopened, hmark]
  have hself := getD_setIfInBounds_self mark hs₀
  rw [hvisit]
  refine ⟨congrArg (· + 1) h.place, ?_, ?_, ?_, ?_⟩
  · rw [Array.size_setIfInBounds, h.size]
  · rw [hp.around_succ_stop hspan₀, ← hrest]
    cases mark
    · exact map_start_noteTurn rest
    · rfl
  · intro loop hmem hturn
    have hold (hin : loop ∈ rest) : p.Busy (k + 1) _ loop.start :=
      (h.turns loop (by rw [hopened]; exact List.mem_cons_of_mem _ hin) hturn).mark
        hp.valid hspan₀ mark
    cases mark with
    | true => exact hold hmem
    | false =>
        rcases mem_noteTurn hmem with hin | hhead
        · exact hold hin
        · rw [← List.head?_map, hrest] at hhead
          obtain ⟨outer, hcons⟩ := List.head?_eq_some_iff.mp hhead
          exact (hunmarked rfl).2.outward hp hspan₀ hcons
            (fun _ hne => getD_setIfInBounds_of_ne hne) hself
  · intro s e hspan hlt hfalse
    by_cases hek : e = k
    · subst hek
      obtain rfl : s = top.start := hspan.start_unique hspan₀
      rw [hself] at hfalse
      obtain ⟨hpos, hbusy⟩ := hunmarked hfalse
      exact ⟨hpos, hbusy.mark hp.valid hspan₀ mark⟩
    · have hne : s ≠ top.start := by
        rintro rfl
        exact hek (hspan.stop_unique hspan₀)
      rw [getD_setIfInBounds_of_ne hne] at hfalse
      obtain ⟨hpos, hbusy⟩ := h.closed s e hspan (by omega) hfalse
      exact ⟨hpos, hbusy.mark hp.valid hspan₀ mark⟩

/-- One instruction further. -/
theorem scanned_visit (hp : p.Sound) (h : p.Scanned k scan)
    (hi : p[k]? = some i) : p.Scanned (k + 1) (scan.visit i) := by
  by_cases hstart : i.op = .repeatStart
  · exact scanned_visit_start hp h hi hstart
  · by_cases hstop : i.op = .repeatEnd
    · exact scanned_visit_stop hp h hi hstop
    · refine scanned_visit_turn hp h hi ?_
      cases hop : i.op <;> first | rfl | exact absurd hop ‹_›

end Visit

/-! ## The whole scan -/

theorem scanned_take {p : Program} (hp : p.Sound) :
    ∀ k, k ≤ p.size →
      p.Scanned k ((p.toList.take k).foldl InertScan.visit (.start p.size)) := by
  intro k
  induction k with
  | zero => intro _; exact scanned_start p
  | succ k ih =>
      intro hk
      have hget : p.toList[k]? = some p[k] := by
        rw [Array.getElem?_toList, Array.getElem?_eq_getElem hk]
      rw [List.take_add_one, hget, List.foldl_append]
      exact scanned_visit hp (ih (by omega)) (Array.getElem?_eq_getElem hk)

theorem scanned_all {p : Program} (hp : p.Sound) :
    p.Scanned p.size (p.foldl InertScan.visit (.start p.size)) := by
  have h := scanned_take hp p.size (Nat.le_refl _)
  rw [List.take_of_length_le (by simp), Array.foldl_toList] at h
  exact h

theorem size_inert {p : Program} (hp : p.Sound) : p.inert.size = p.size :=
  (scanned_all hp).size

/-- A counted loop that is not skipped runs, and holds something that takes a
turn where no skipped loop of its own is around it. -/
theorem busy_of_not_inertAt {p : Program} (hp : p.Sound) {s e : Nat}
    (hspan : p.Spans .repeatStart s e) (hnot : p.inertAt s = false) :
    0 < p.passes s ∧ ∃ (j : Nat) (i : Instruction), s ∈ p.around j ∧
      p[j]? = some i ∧ i.op.isLoopControl = false ∧
      ∀ s' ∈ p.around j, s < s' → p.inertAt s' = false := by
  obtain ⟨hpos, j, i, hj, -, hi, hop, hinner⟩ :=
    (scanned_all hp).closed s e hspan hspan.stop_lt_size hnot
  exact ⟨hpos, j, i, hj, hi, hop, fun s' hs' hlt => (hinner s' hs' hlt).2⟩

end TapeDuel.Program
