import Mathlib.Data.List.Forall2
import Mathlib.Data.List.Perm.Subperm
import Mathlib.Data.Nat.Find
import TapeDuel.Proofs.InertScan

/-!
# Between two turns

Before each turn a bot settles: its pointer moves through the ends of counted
loops until it stands at something that takes a turn. `FreeMove` says once
what a single such move can do, and `settleFrom` is read off it: a run of free
moves ends at rest, strands at the end of a loop that was never entered, or
uses up its patience.

In a sound program the counters mirror the loops around the pointer. That is
`Balanced`, every free move keeps it, and nobody strands who has it. Patience
is not used up either, and the argument is about places alone. Going forward, a
run of free moves meets no turn outside of skipped loops. So a jump back goes
to the start of a loop whose turns all lie before the place where the run
began, and from there on it goes forward to the first of them. Together no
place is passed twice, and the size of the program bounds the run.
-/

namespace TapeDuel.Agent

/-! ## One look of the bookkeeping -/

/-- What the bookkeeping makes of the place it looks at. -/
inductive Look where
  | rests
  | fails (fault : Fault)
  | moves (pointer : Int) (counters : List Nat)
deriving DecidableEq, Repr

/-- A look at one place of the program. -/
def look (p : Program) (inert : Array Bool) (pointer : Int)
    (counters : List Nat) : Look :=
  match p.at? pointer with
  | none => .fails .noInstruction
  | some i =>
    match i.op with
    | .repeatStart =>
      if inert.getD pointer.toNat false then .moves (landing p i.target) counters
      else .moves (pointer + 1) (0 :: counters)
    | .repeatEnd =>
      match counters with
      | [] => .fails .noCounter
      | count :: outer =>
        if i.iterations ≤ (count : Int) + 1 then .moves (pointer + 1) outer
        else .moves (landing p i.target) ((count + 1) :: outer)
    | _ => .rests

/-- Settling looks at one place after the other. -/
theorem settleFrom_succ (p : Program) (inert : Array Bool) (fuel : Nat)
    (pointer : Int) (counters : List Nat) :
    settleFrom p inert (fuel + 1) pointer counters =
      if (p.size : Int) ≤ pointer then .ok (pointer, counters)
      else
        match look p inert pointer counters with
        | .rests => .ok (pointer, counters)
        | .fails fault => .error fault
        | .moves pointer' counters' => settleFrom p inert fuel pointer' counters' := by
  rw [settleFrom, look]
  refine ite_congr rfl (fun _ => rfl) fun _ => ?_
  cases p.at? pointer with
  | none => rfl
  | some i =>
      dsimp only
      cases i.op with
      | repeatStart => dsimp only; split <;> rfl
      | repeatEnd =>
          cases counters with
          | nil => rfl
          | cons count outer => dsimp only; split <;> rfl
      | _ => rfl

end TapeDuel.Agent

namespace TapeDuel.Program

/-! ## Free moves -/

/-- One move of the bookkeeping from a pointer with its counters to the
next. -/
inductive FreeMove (p : Program) : Nat → List Nat → Nat → List Nat → Prop where
  /-- Past a loop that takes no turn. -/
  | skip {k e : Nat} {counters : List Nat} {i : Instruction}
      (hi : p[k]? = some i) (hop : i.op = .repeatStart)
      (ht : i.target = (e : Nat)) (hinert : p.inertAt k = true) :
      FreeMove p k counters (e + 1) counters
  /-- Into a loop. -/
  | enter {k : Nat} {counters : List Nat} {i : Instruction}
      (hi : p[k]? = some i) (hop : i.op = .repeatStart)
      (hinert : p.inertAt k = false) :
      FreeMove p k counters (k + 1) (0 :: counters)
  /-- Out of a loop behind its last pass. -/
  | leave {k count : Nat} {counters : List Nat} {i : Instruction}
      (hi : p[k]? = some i) (hop : i.op = .repeatEnd)
      (hle : i.iterations ≤ (count : Int) + 1) :
      FreeMove p k (count :: counters) (k + 1) counters
  /-- Back for another pass. -/
  | again {k s count : Nat} {counters : List Nat} {i : Instruction}
      (hi : p[k]? = some i) (hop : i.op = .repeatEnd)
      (ht : i.target = (s : Nat)) (hlt : (count : Int) + 1 < i.iterations) :
      FreeMove p k (count :: counters) (s + 1) ((count + 1) :: counters)

/-- A run of so many free moves. -/
inductive FreePath (p : Program) :
    Nat → Nat → List Nat → Nat → List Nat → Prop where
  | stay {k : Nat} {counters : List Nat} : FreePath p 0 k counters k counters
  | move {m k₁ k₂ k₃ : Nat} {counters₁ counters₂ counters₃ : List Nat}
      (first : FreeMove p k₁ counters₁ k₂ counters₂)
      (rest : FreePath p m k₂ counters₂ k₃ counters₃) :
      FreePath p (m + 1) k₁ counters₁ k₃ counters₃

/-- Something that takes a turn stands at the place. -/
def TurnAt (p : Program) (k : Nat) : Prop :=
  ∃ i, p[k]? = some i ∧ i.op.isLoopControl = false

/-- The bookkeeping is done: a turn is next, or the program is over. -/
def AtRest (p : Program) (k : Nat) : Prop :=
  p.size ≤ k ∨ p.TurnAt k

/-- A counted loop ends here and nothing is counted. -/
def Stranded (p : Program) (k : Nat) (counters : List Nat) : Prop :=
  counters = [] ∧ ∃ i, p[k]? = some i ∧ i.op = .repeatEnd

/-- At every place the bookkeeping is done, goes on, or strands. -/
theorem rests_or_moves {p : Program} (hv : p.validate = .ok ()) (k : Nat)
    (counters : List Nat) :
    p.AtRest k ∨ p.Stranded k counters ∨
      ∃ k' counters', p.FreeMove k counters k' counters' := by
  rcases Nat.lt_or_ge k p.size with hlt | hge
  · have hi : p[k]? = some p[k] := Array.getElem?_eq_getElem hlt
    by_cases hstart : p[k].op = .repeatStart
    · obtain ⟨e, ht, -⟩ := spans_of_repeatStart hv hi hstart
      cases hinert : p.inertAt k with
      | true => exact .inr (.inr ⟨_, _, .skip hi hstart ht hinert⟩)
      | false => exact .inr (.inr ⟨_, _, .enter hi hstart hinert⟩)
    · by_cases hstop : p[k].op = .repeatEnd
      · obtain ⟨s, ht, -⟩ := spans_of_repeatEnd hv hi hstop
        match counters with
        | [] => exact .inr (.inl ⟨rfl, _, hi, hstop⟩)
        | count :: outer =>
            rcases Int.lt_or_le ((count : Int) + 1) p[k].iterations with hlt | hle
            · exact .inr (.inr ⟨_, _, .again hi hstop ht hlt⟩)
            · exact .inr (.inr ⟨_, _, .leave hi hstop hle⟩)
      · refine .inl (.inr ⟨_, hi, ?_⟩)
        cases hop : p[k].op <;> first | rfl | exact absurd hop ‹_›
  · exact .inl (.inl hge)

/-! ## Settling is a run of free moves -/

theorem landing_natCast {p : Program} {t : Nat} (h : t < p.size) :
    Agent.landing p (t : Int) = ((t + 1 : Nat) : Int) := by
  rw [Agent.landing, if_pos ⟨Int.natCast_nonneg t, Int.ofNat_lt.mpr h⟩]
  rfl

section SettleFrom

variable {p : Program} {k : Nat} {counters : List Nat}

theorem look_of_turnAt (h : p.TurnAt k) :
    Agent.look p p.inert k counters = .rests := by
  obtain ⟨i, hi, hop⟩ := h
  rw [Agent.look, at?_natCast, hi]
  cases h : i.op <;> simp_all [Op.isLoopControl]

theorem look_of_stranded (h : p.Stranded k counters) :
    Agent.look p p.inert k counters = .fails .noCounter := by
  obtain ⟨rfl, i, hi, hop⟩ := h
  rw [Agent.look, at?_natCast, hi]
  simp only [hop]

theorem look_of_freeMove (hv : p.validate = .ok ()) {k' : Nat}
    {counters' : List Nat} (h : p.FreeMove k counters k' counters') :
    Agent.look p p.inert k counters = .moves k' counters' := by
  rw [Agent.look]
  cases h with
  | @skip e _ i hi hop ht hinert =>
      obtain ⟨e', ht', hspan⟩ := spans_of_repeatStart hv hi hop
      obtain rfl : e = e' := by omega
      rw [at?_natCast, hi]
      simp only [hop, Int.toNat_natCast]
      rw [if_pos (show p.inert.getD k false = true from hinert), ht,
        landing_natCast hspan.stop_lt_size]
  | enter hi hop hinert =>
      rw [at?_natCast, hi]
      simp only [hop, Int.toNat_natCast]
      rw [if_neg (by rw [← inertAt, hinert]; decide)]
      rfl
  | leave hi hop hle =>
      rw [at?_natCast, hi]
      simp only [hop]
      rw [if_pos hle]
      rfl
  | @again s count _ i hi hop ht hlt' =>
      obtain ⟨s', ht', hspan⟩ := spans_of_repeatEnd hv hi hop
      obtain rfl : s = s' := by omega
      rw [at?_natCast, hi]
      simp only [hop]
      rw [if_neg (by omega), ht, landing_natCast hspan.start_lt_size]

theorem TurnAt.lt_size (h : p.TurnAt k) : k < p.size := by
  obtain ⟨i, hi, -⟩ := h
  exact lt_size_of_getElem? hi

/-- Free moves are made inside the program. -/
theorem FreeMove.lt_size {k' : Nat} {counters' : List Nat}
    (h : p.FreeMove k counters k' counters') : k < p.size := by
  cases h with
  | skip hi | enter hi | leave hi | again hi => exact lt_size_of_getElem? hi

theorem settleFrom_of_atRest (h : p.AtRest k) (fuel : Nat) :
    Agent.settleFrom p p.inert (fuel + 1) k counters =
      .ok ((k : Int), counters) := by
  rw [Agent.settleFrom_succ]
  rcases h with hge | hturn
  · rw [if_pos (Int.ofNat_le.mpr hge)]
  · have hlt := hturn.lt_size
    rw [if_neg (by omega), look_of_turnAt hturn]

theorem settleFrom_of_stranded (h : p.Stranded k counters) (fuel : Nat) :
    Agent.settleFrom p p.inert (fuel + 1) k counters = .error .noCounter := by
  obtain ⟨i, hi, -⟩ := h.2
  have hlt := lt_size_of_getElem? hi
  rw [Agent.settleFrom_succ, if_neg (by omega), look_of_stranded h]

theorem settleFrom_of_freeMove (hv : p.validate = .ok ()) {k' : Nat}
    {counters' : List Nat} (h : p.FreeMove k counters k' counters')
    (fuel : Nat) :
    Agent.settleFrom p p.inert (fuel + 1) k counters =
      Agent.settleFrom p p.inert fuel k' counters' := by
  have hlt := h.lt_size
  rw [Agent.settleFrom_succ, if_neg (by omega), look_of_freeMove hv h]

/-- A run of free moves costs exactly its length. -/
theorem settleFrom_of_freePath (hv : p.validate = .ok ()) {m k' : Nat}
    {counters' : List Nat} (h : p.FreePath m k counters k' counters')
    (fuel : Nat) :
    Agent.settleFrom p p.inert (m + fuel) k counters =
      Agent.settleFrom p p.inert fuel k' counters' := by
  induction h with
  | stay => rw [Nat.zero_add]
  | @move m _ _ _ _ _ _ first rest ih =>
      rw [show m + 1 + fuel = m + fuel + 1 by omega,
        settleFrom_of_freeMove hv first, ih]

/-- However a bot settles, a run of free moves says why. -/
theorem exists_freePath (hv : p.validate = .ok ()) :
    ∀ (fuel k : Nat) (counters : List Nat),
      (∃ m k' counters', m < fuel ∧ p.FreePath m k counters k' counters' ∧
        (p.AtRest k' ∨ p.Stranded k' counters')) ∨
      ∃ k' counters', p.FreePath fuel k counters k' counters' := by
  intro fuel
  induction fuel with
  | zero => intro k counters; exact .inr ⟨k, counters, .stay⟩
  | succ fuel ih =>
      intro k counters
      rcases rests_or_moves hv k counters with hrest | hstrand | ⟨k₁, cs₁, hmove⟩
      · exact .inl ⟨0, k, counters, by omega, .stay, .inl hrest⟩
      · exact .inl ⟨0, k, counters, by omega, .stay, .inr hstrand⟩
      · rcases ih k₁ cs₁ with ⟨m, k', cs', hm, hpath, hend⟩ | ⟨k', cs', hpath⟩
        · exact .inl ⟨m + 1, k', cs', by omega, .move hmove hpath, hend⟩
        · exact .inr ⟨k', cs', .move hmove hpath⟩

theorem settleFrom_zero_of_freePath (hv : p.validate = .ok ()) {fuel k' : Nat}
    {counters' : List Nat} (h : p.FreePath fuel k counters k' counters') :
    Agent.settleFrom p p.inert fuel k counters = .error .stalled := by
  have hzero := settleFrom_of_freePath hv h 0
  rw [Nat.add_zero] at hzero
  rw [hzero, Agent.settleFrom]

end SettleFrom

/-! ## Balance -/

/-- One counter for each counted loop around the place, and each counts the
finished passes of a loop that is not skipped. -/
def Balanced (p : Program) (k : Nat) (counters : List Nat) : Prop :=
  k ≤ p.size ∧
    List.Forall₂ (fun (count s : Nat) => p.inertAt s = false ∧ count < p.passes s)
      counters (p.around k)

theorem balanced_zero (p : Program) : p.Balanced 0 [] :=
  ⟨Nat.zero_le _, .nil⟩

/-- No skipped loop is around the place. -/
def Live (p : Program) (k : Nat) : Prop :=
  ∀ s ∈ p.around k, p.inertAt s = false

theorem Balanced.live {p : Program} {k : Nat} {counters : List Nat}
    (h : p.Balanced k counters) : p.Live k := by
  intro s hs
  obtain ⟨n, hn, rfl⟩ := List.getElem_of_mem hs
  have hn' : n < counters.length := by rw [h.2.length_eq]; exact hn
  exact (h.2.get hn' hn).1

/-- A bot with balanced counters never strands. -/
theorem Balanced.not_stranded {p : Program} (hp : p.Sound) {k : Nat}
    {counters : List Nat} (h : p.Balanced k counters) :
    ¬ p.Stranded k counters := by
  rintro ⟨rfl, i, hi, hop⟩
  obtain ⟨s, -, hspan⟩ := spans_of_repeatEnd hp.valid hi hop
  have hall := h.2
  rw [hp.around_stop hspan] at hall
  cases hall

theorem Balanced.freeMove {p : Program} (hp : p.Sound) {k k' : Nat}
    {counters counters' : List Nat} (h : p.Balanced k counters)
    (hmove : p.FreeMove k counters k' counters') :
    p.Balanced k' counters' := by
  cases hmove with
  | @skip e _ i hi hop ht hinert =>
      obtain ⟨e', ht', hspan⟩ := spans_of_repeatStart hp.valid hi hop
      obtain rfl : e = e' := by omega
      refine ⟨hspan.stop_lt_size, ?_⟩
      rw [hp.around_succ_stop hspan]
      exact h.2
  | enter hi hop hinert =>
      obtain ⟨e, -, hspan⟩ := spans_of_repeatStart hp.valid hi hop
      refine ⟨hspan.start_lt_size, ?_⟩
      rw [around_succ_of_start hp.valid hspan]
      exact .cons ⟨hinert, (busy_of_not_inertAt hp hspan hinert).1⟩ h.2
  | leave hi hop hle =>
      obtain ⟨s, -, hspan⟩ := spans_of_repeatEnd hp.valid hi hop
      have hall := h.2
      rw [hp.around_stop hspan] at hall
      cases hall with
      | cons _ houter =>
          refine ⟨hspan.stop_lt_size, ?_⟩
          rw [hp.around_succ_stop hspan]
          exact houter
  | @again s count _ i hi hop ht hlt =>
      obtain ⟨s', ht', hspan⟩ := spans_of_repeatEnd hp.valid hi hop
      obtain rfl : s = s' := by omega
      have hall := h.2
      rw [hp.around_stop hspan] at hall
      cases hall with
      | cons hfirst houter =>
          refine ⟨hspan.start_lt_size, ?_⟩
          rw [around_succ_of_start hp.valid hspan]
          refine .cons ⟨hfirst.1, ?_⟩ houter
          rw [passes_eq hspan hi]
          exact hlt

theorem Balanced.freePath {p : Program} (hp : p.Sound) {m k k' : Nat}
    {counters counters' : List Nat} (h : p.Balanced k counters)
    (hpath : p.FreePath m k counters k' counters') :
    p.Balanced k' counters' := by
  induction hpath with
  | stay => exact h
  | move first _ ih => exact ih (h.freeMove hp first)

/-! ## No place is passed twice -/

/-- A turn that no skipped loop hides. -/
def LiveTurn (p : Program) (k : Nat) : Prop :=
  p.TurnAt k ∧ p.Live k

theorem not_turnAt_of_freeMove {p : Program} {k k' : Nat}
    {counters counters' : List Nat}
    (h : p.FreeMove k counters k' counters') : ¬ p.TurnAt k := by
  rintro ⟨i, hi, hop⟩
  cases h with
  | skip hi' hop' | enter hi' hop' | leave hi' hop' | again hi' hop' =>
      rw [hi] at hi'
      cases hi'
      rw [hop'] at hop
      cases hop

/-- A skipped loop holds none. -/
theorem not_liveTurn_of_inertAt {p : Program} (hv : p.validate = .ok ())
    {s e k : Nat} (hspan : p.Spans .repeatStart s e)
    (hinert : p.inertAt s = true) (hlo : s < k) (hhi : k ≤ e) :
    ¬ p.LiveTurn k := by
  intro hturn
  have hnot := hturn.2 s ((mem_around hv).mpr ⟨hlo, e, hspan, hhi⟩)
  rw [hinert] at hnot
  cases hnot

/-- A loop that is not skipped holds a live turn. -/
theorem exists_liveTurn {p : Program} (hp : p.Sound) {s e : Nat}
    (hspan : p.Spans .repeatStart s e) (hlive : p.Live e) :
    ∃ k, s < k ∧ k < e ∧ p.LiveTurn k := by
  have haround := hp.around_stop hspan
  have hnot : p.inertAt s = false :=
    hlive s (by rw [haround]; exact List.mem_cons_self)
  obtain ⟨-, k, i, hk, hi, hop, hinner⟩ := busy_of_not_inertAt hp hspan hnot
  obtain ⟨hsk, e', hspan', hke⟩ := (mem_around hp.valid).mp hk
  obtain rfl : e = e' := hspan.stop_unique hspan'
  have hne := hspan.turn_ne_stop hi hop
  refine ⟨k, hsk, by omega, ⟨i, hi, hop⟩, ?_⟩
  intro s' hs'
  rcases Nat.lt_trichotomy s' s with hbelow | rfl | habove
  · obtain ⟨-, e', hspan', hke'⟩ := (mem_around hp.valid).mp hs'
    refine hlive s' ?_
    rw [haround]
    exact List.mem_cons_of_mem _
      ((mem_around hp.valid).mpr ⟨hbelow, e', hspan', by omega⟩)
  · exact hnot
  · exact hinner s' hs' habove

theorem exists_first_liveTurn {p : Program} (hp : p.Sound) {s e : Nat}
    (hspan : p.Spans .repeatStart s e) (hlive : p.Live e) :
    ∃ k, s < k ∧ k < e ∧ p.LiveTurn k ∧
      ∀ j, s < j → j < k → ¬ p.LiveTurn j := by
  classical
  have hex := exists_liveTurn hp hspan hlive
  obtain ⟨hlo, hhi, hturn⟩ := Nat.find_spec hex
  refine ⟨Nat.find hex, hlo, hhi, hturn, ?_⟩
  intro j hsj hjk hturn'
  exact Nat.find_min hex hjk ⟨hsj, by omega, hturn'⟩

/-- A free move goes forward, or back into the loop that ends where it stands. -/
theorem FreeMove.forward_or_back {p : Program} (hv : p.validate = .ok ()) {j j' : Nat}
    {counters counters' : List Nat} (h : p.FreeMove j counters j' counters') :
    j < j' ∨ ∃ s, p.Spans .repeatStart s j ∧ j' = s + 1 := by
  cases h with
  | @skip e _ i hi hop ht hinert =>
      obtain ⟨e', ht', hspan⟩ := spans_of_repeatStart hv hi hop
      obtain rfl : e = e' := by omega
      exact .inl (Nat.lt_succ_of_lt hspan.lt)
  | enter | leave => exact .inl (Nat.lt_succ_self j)
  | @again s _ _ i hi hop ht =>
      obtain ⟨s', ht', hspan⟩ := spans_of_repeatEnd hv hi hop
      obtain rfl : s = s' := by omega
      exact .inr ⟨s, hspan, rfl⟩

/-- A free move passes no live turn. -/
theorem FreeMove.not_liveTurn {p : Program} (hv : p.validate = .ok ()) {j j' k : Nat}
    {counters counters' : List Nat} (h : p.FreeMove j counters j' counters')
    (hlo : j ≤ k) (hhi : k < j') : ¬ p.LiveTurn k := by
  rcases Nat.eq_or_lt_of_le hlo with rfl | hlt
  · exact fun hturn => not_turnAt_of_freeMove h hturn.1
  · cases h with
    | @skip e _ i hi hop ht hinert =>
        obtain ⟨e', ht', hspan⟩ := spans_of_repeatStart hv hi hop
        obtain rfl : e = e' := by omega
        exact not_liveTurn_of_inertAt hv hspan hinert hlt (by omega)
    | enter | leave => omega
    | again hi hop ht =>
        obtain ⟨s', ht', hspan⟩ := spans_of_repeatEnd hv hi hop
        have := hspan.lt
        omega

/-- A run of free moves with the places that it leaves, in order. -/
inductive FreeWalk (p : Program) :
    List Nat → Nat → List Nat → Nat → List Nat → Prop where
  | stay {k : Nat} {counters : List Nat} : FreeWalk p [] k counters k counters
  | move {places : List Nat} {k₁ k₂ k₃ : Nat} {counters₁ counters₂ counters₃ : List Nat}
      (first : FreeMove p k₁ counters₁ k₂ counters₂)
      (rest : FreeWalk p places k₂ counters₂ k₃ counters₃) :
      FreeWalk p (k₁ :: places) k₁ counters₁ k₃ counters₃

theorem FreePath.exists_freeWalk {p : Program} {m k k' : Nat}
    {counters counters' : List Nat}
    (h : p.FreePath m k counters k' counters') :
    ∃ places, places.length = m ∧ p.FreeWalk places k counters k' counters' := by
  induction h with
  | stay => exact ⟨[], rfl, .stay⟩
  | move first _ ih =>
      obtain ⟨places, rfl, hwalk⟩ := ih
      exact ⟨_, rfl, .move first hwalk⟩

/-- The places go up, from `lo` and below `hi`. -/
def Ascends (lo hi : Nat) (places : List Nat) : Prop :=
  places.Pairwise (· < ·) ∧ ∀ k ∈ places, lo ≤ k ∧ k < hi

theorem ascends_singleton {lo hi k : Nat} (hlo : lo ≤ k) (hhi : k < hi) :
    Ascends lo hi [k] := by
  refine ⟨List.pairwise_singleton _ k, ?_⟩
  intro i hi
  rw [List.mem_singleton.mp hi]
  exact ⟨hlo, hhi⟩

theorem Ascends.cons {lo hi k : Nat} {places : List Nat} (h : Ascends lo hi places)
    (hlt : k < lo) (hhi : k < hi) : Ascends k hi (k :: places) := by
  refine ⟨List.pairwise_cons.mpr ⟨?_, h.1⟩, List.forall_mem_cons.mpr
    ⟨⟨Nat.le_refl k, hhi⟩, ?_⟩⟩
  · intro i hi
    exact Nat.lt_of_lt_of_le hlt (h.2 i hi).1
  · intro i hi
    have := h.2 i hi
    omega

/-- Going up, and then up again below, meets no place twice. -/
theorem Ascends.nodup_append {lo mid hi : Nat} {forth back : List Nat}
    (hforth : Ascends mid hi forth) (hback : Ascends lo mid back) :
    (forth ++ back).Nodup := by
  refine List.nodup_append.mpr
    ⟨hforth.1.imp Nat.ne_of_lt, hback.1.imp Nat.ne_of_lt, ?_⟩
  intro k hk k' hk'
  have := (hforth.2 k hk).1
  have := (hback.2 k' hk').2
  omega

/-- Up to the first live turn behind the start of a loop all moves go
forward: a loop that ended before would hold an earlier one. -/
theorem FreeWalk.ascends_inside {p : Program} (hp : p.Sound) {s e k : Nat}
    (hspan : p.Spans .repeatStart s e) (hke : k < e) (hturn : p.LiveTurn k)
    (hleast : ∀ j, s < j → j < k → ¬ p.LiveTurn j) {places : List Nat} {j j' : Nat}
    {counters counters' : List Nat}
    (hwalk : p.FreeWalk places j counters j' counters') :
    p.Balanced j counters → s < j → j ≤ k → Ascends j (k + 1) (places ++ [j']) := by
  induction hwalk with
  | stay =>
      intro _ _ hle
      exact ascends_singleton (Nat.le_refl _) (Nat.lt_succ_of_le hle)
  | @move places j j₂ _ counters counters₂ _ first rest ih =>
      intro hbal hsj hjk
      have hforward : j < j₂ := by
        refine (first.forward_or_back hp.valid).resolve_right ?_
        rintro ⟨s', hspan', -⟩
        obtain ⟨k', hlo, hhi, hturn'⟩ := exists_liveTurn hp hspan' hbal.live
        rcases Nat.lt_or_ge s s' with hlt | hge
        · exact hleast k' (by omega) (by omega) hturn'
        · have := hp.nest.start_inside hspan hspan' hsj (by omega)
          omega
      have hbefore : j₂ ≤ k := by
        by_contra hpast
        exact first.not_liveTurn hp.valid hjk (by omega) hturn
      have hrest := ih (hbal.freeMove hp first) (by omega) hbefore
      exact hrest.cons hforward (by omega)

/-- No live turn has been met since the run began at `j₀`. A jump back leads to
a loop whose first live turn lies before `j₀`, and there the run ends. -/
theorem FreeWalk.splits_since {p : Program} (hp : p.Sound) {places : List Nat}
    {j j' : Nat} {counters counters' : List Nat}
    (hwalk : p.FreeWalk places j counters j' counters') :
    ∀ j₀ ≤ j, (∀ k, j₀ ≤ k → k < j → ¬ p.LiveTurn k) →
      p.Balanced j counters →
      ∃ forth back, places ++ [j'] = forth ++ back ∧
        Ascends j (p.size + 1) forth ∧ Ascends 0 j₀ back := by
  induction hwalk with
  | @stay j counters =>
      intro j₀ _ _ hbal
      have hle := hbal.1
      exact ⟨[j], [], rfl, ascends_singleton (Nat.le_refl j) (by omega), .nil, nofun⟩
  | @move places j j₂ j' counters counters₂ _ first rest ih =>
      intro j₀ hle hfree hbal
      have hbal₂ := hbal.freeMove hp first
      rcases first.forward_or_back hp.valid with hforward | ⟨s, hspan, rfl⟩
      · have hfree₂ : ∀ k, j₀ ≤ k → k < j₂ → ¬ p.LiveTurn k := by
          intro k hlo hhi
          rcases Nat.lt_or_ge k j with hlt | hge
          · exact hfree k hlo hlt
          · exact first.not_liveTurn hp.valid hge hhi
        obtain ⟨forth, back, hsplit, hforth, hback⟩ := ih j₀ (by omega) hfree₂ hbal₂
        have hsize := hbal.1
        refine ⟨j :: forth, back, ?_, hforth.cons hforward (by omega), hback⟩
        rw [List.cons_append, List.cons_append, hsplit]
      · -- The loop that is entered again has its first live turn before
        -- `j₀`, and the rest of the run goes forward until it meets it.
        obtain ⟨k, hsk, hkj, hturn, hleast⟩ := exists_first_liveTurn hp hspan hbal.live
        have hkj₀ : k < j₀ := by
          by_contra hge
          exact hfree k (by omega) hkj hturn
        have hrest := rest.ascends_inside hp hspan hkj hturn hleast hbal₂
          (by omega) (by omega)
        have hsize := hspan.stop_lt_size
        refine ⟨[j], places ++ [j'], rfl,
          ascends_singleton (Nat.le_refl j) (by omega), hrest.1, ?_⟩
        intro i hi
        have := hrest.2 i hi
        omega

/-- A run of free moves goes up from where it begins, and may jump back once, to
go up below where it began. -/
theorem FreeWalk.splits {p : Program} (hp : p.Sound) {places : List Nat}
    {k k' : Nat} {counters counters' : List Nat} (hbal : p.Balanced k counters)
    (hwalk : p.FreeWalk places k counters k' counters') :
    ∃ forth back, places ++ [k'] = forth ++ back ∧
      Ascends k (p.size + 1) forth ∧ Ascends 0 k back :=
  hwalk.splits_since hp k (Nat.le_refl k) (fun _ hlo hhi => absurd hlo (by omega)) hbal

theorem length_le_of_nodup {size : Nat} {places : List Nat} (h : places.Nodup)
    (hlt : ∀ k ∈ places, k < size) : places.length ≤ size := by
  have hsub : places ⊆ List.range size :=
    fun k hk => List.mem_range.mpr (hlt k hk)
  have hle := (List.subperm_of_subset h hsub).length_le
  rwa [List.length_range] at hle

/-- A run of free moves is no longer than the program. -/
theorem FreePath.length_le_size {p : Program} (hp : p.Sound) {m k k' : Nat}
    {counters counters' : List Nat} (hbal : p.Balanced k counters)
    (hpath : p.FreePath m k counters k' counters') : m ≤ p.size := by
  obtain ⟨places, rfl, hwalk⟩ := hpath.exists_freeWalk
  obtain ⟨forth, back, hsplit, hforth, hback⟩ := hwalk.splits hp hbal
  have hlength : (places ++ [k']).length ≤ p.size + 1 := by
    rw [hsplit]
    refine length_le_of_nodup (hforth.nodup_append hback) ?_
    intro i hi
    have hk := hbal.1
    rcases List.mem_append.mp hi with hi | hi
    · exact (hforth.2 i hi).2
    · have := (hback.2 i hi).2
      omega
  rw [List.length_append, List.length_singleton] at hlength
  exact Nat.le_of_succ_le_succ hlength

/-- A bot with balanced counters comes to rest, and stays balanced. -/
theorem Balanced.exists_rest {p : Program} (hp : p.Sound) {k : Nat}
    {counters : List Nat} (h : p.Balanced k counters) :
    ∃ m k' counters', p.FreePath m k counters k' counters' ∧ p.AtRest k' ∧
      p.Balanced k' counters' ∧
      ∀ fuel, p.size < fuel →
        Agent.settleFrom p p.inert fuel k counters =
          .ok ((k' : Int), counters') := by
  rcases exists_freePath hp.valid (p.size + 1) k counters with
    ⟨m, k', counters', hm, hpath, hend⟩ | ⟨k', counters', hpath⟩
  · have hbal := h.freePath hp hpath
    have hrest : p.AtRest k' :=
      hend.resolve_right fun hstrand => hbal.not_stranded hp hstrand
    refine ⟨m, k', counters', hpath, hrest, hbal, ?_⟩
    intro fuel hfuel
    obtain ⟨extra, rfl⟩ : ∃ extra, fuel = m + (extra + 1) :=
      ⟨fuel - m - 1, by omega⟩
    rw [settleFrom_of_freePath hp.valid hpath, settleFrom_of_atRest hrest]
  · have := hpath.length_le_size hp h
    omega

end TapeDuel.Program
