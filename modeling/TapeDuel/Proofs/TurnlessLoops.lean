import TapeDuel.Proofs.AgentTurns
import TapeDuel.Proofs.IdleBlocks
import TapeDuel.Proofs.Unrolling

/-!
# Loops without a turn

A counted loop is marked when none of its passes takes a turn. On the tree that
is a property of the block alone, `Block.idle`, and there are three ways to say
it without the mark. Written out, the block is empty. In the program, each of
its instructions is in a marked loop of the block. And a bot that comes to it
goes past it: from the beginning of a block that is not idle, whatever the
counters are, the bookkeeping runs forward into the block and rests at
something that takes a turn.

The last is what the engine relies on, and it needs no balanced counters,
because no loop is left on the way: a loop that was entered holds a turn. So it
holds of every pass, also of a loop inside of one that is skipped.
-/

namespace TapeDuel

namespace Block

/-! ## Written out -/

theorem append_eq_done {b c : Block} : b ++ c = done ↔ b = done ∧ c = done := by
  cases b with
  | done => exact ⟨fun h => ⟨rfl, h⟩, And.right⟩
  | act | loop | times => exact ⟨nofun, nofun⟩

theorem copies_eq_done {b : Block} {count : Nat} :
    b.copies count = done ↔ count = 0 ∨ b = done := by
  induction count with
  | zero => exact ⟨fun _ => .inl rfl, fun _ => rfl⟩
  | succ count ih =>
      rw [copies, append_eq_done, ih]
      constructor
      · exact fun h => .inr h.1
      · rintro (h | rfl)
        · cases h
        · exact ⟨rfl, .inr rfl⟩

/-- An idle block is one that writing its loops out leaves nothing of. -/
theorem unrolled_eq_done_iff {b : Block} : b.unrolled = done ↔ b.idle = true := by
  induction b with
  | done => exact ⟨fun _ => rfl, fun _ => rfl⟩
  | act action next ih => exact ⟨nofun, nofun⟩
  | loop body next ihBody ihNext => exact ⟨nofun, nofun⟩
  | times body count next ihBody ihNext =>
      rw [unrolled, append_eq_done, copies_eq_done, ihBody, ihNext, idle,
        Bool.and_eq_true, Bool.or_eq_true, beq_iff_eq]

/-- What is written out has nothing in it but turns. -/
theorem turnless_iff_idle {b : Block} :
    (∀ i ∈ b.unrolled.program, i.op.isLoopControl = true) ↔ b.idle = true := by
  rw [← unrolled_eq_done_iff]
  constructor
  · intro h
    have hempty : b.unrolled.program = #[] := by
      refine Array.eq_empty_iff_forall_not_mem.mpr fun i hi => ?_
      have hturn := b.plain_unrolled.program i hi
      rw [h i hi] at hturn
      cases hturn
    have hsize := size_program b.unrolled
    rw [hempty] at hsize
    cases hcase : b.unrolled with
    | done => rfl
    | act | loop | times =>
        rw [hcase, size] at hsize
        cases hsize
  · intro h i hi
    rw [h] at hi
    exact absurd hi (Array.not_mem_empty i)

/-! ## In the program -/

/-- The place `n` is in a counted loop between `lo` and `hi`, at one of its ends
or in its body, and the loop is marked. -/
def InMarkedLoop (p : Program) (lo hi n : Nat) : Prop :=
  ∃ s e, p.Spans .repeatStart s e ∧ p.inertAt s = true ∧
    lo ≤ s ∧ s ≤ n ∧ n ≤ e ∧ e < hi

section Places

variable {p : Program} {body next : Block} {k : Nat}

/-- The block begins with something that is no start of a counted loop. -/
theorem not_inMarkedLoop_first {i : Instruction} {hi : Nat} (hfirst : p[k]? = some i)
    (hop : i.op ≠ .repeatStart) : ¬ InMarkedLoop p k hi k := by
  rintro ⟨s, e, hspan, -, hlo, hle, -⟩
  obtain rfl : s = k := by omega
  obtain ⟨j, hj, hjop, -⟩ := hspan.opens
  rw [hfirst] at hj
  cases hj
  exact hop hjop

/-- The counted loop that is laid out at `k`. -/
theorem LaidAt.spans {count : Nat} (h : LaidAt p (.times body count next) k) :
    p.Spans .repeatStart k (k + body.size + 1) := by
  obtain ⟨hfirst, -, hlast, -⟩ := h.times
  exact ⟨by omega, ⟨_, hfirst, rfl, rfl⟩, ⟨_, hlast, rfl, rfl⟩⟩

/-- A place behind a counted loop is in no loop that starts in that one. -/
theorem LaidAt.behind {count s e n : Nat} (h : LaidAt p (.times body count next) k)
    (hspan : p.Spans .repeatStart s e) (hlo : k ≤ s) (hn : k + body.size + 2 ≤ n)
    (hne : n ≤ e) : k + body.size + 2 ≤ s := by
  obtain ⟨-, hbody, hlast, -⟩ := h.times
  by_contra hlt
  rcases Nat.eq_or_lt_of_le hlo with rfl | hlo
  · have := hspan.stop_unique h.spans
    omega
  obtain ⟨i, hi, hop, ht⟩ := hspan.opens
  rcases Nat.lt_or_ge s (k + body.size + 1) with hin | hend
  · have hplaced := hbody.placed s hlo (by omega)
    have := (hplaced.target hi (by rw [hop]; rfl)).2
    omega
  · obtain rfl : s = k + body.size + 1 := by omega
    rw [hlast] at hi
    cases hi
    cases hop

/-- A block is idle when each of its instructions is in a marked loop of it. -/
theorem LaidAt.idle_iff {b : Block} (h : LaidAt p b k) (hmarked : Marked p.inert b k) :
    b.idle = true ↔ ∀ n, k ≤ n → n < k + b.size → InMarkedLoop p k (k + b.size) n := by
  induction b generalizing k with
  | done =>
      refine ⟨fun _ n hlo hhi => ?_, fun _ => rfl⟩
      rw [size] at hhi
      omega
  | act action next ih =>
      refine iff_of_false Bool.false_ne_true fun hall => ?_
      refine not_inMarkedLoop_first h.act.1 ?_ (hall k (Nat.le_refl k)
        (by rw [size]; omega))
      cases action <;> decide
  | loop body next ihBody ihNext =>
      refine iff_of_false Bool.false_ne_true fun hall => ?_
      exact not_inMarkedLoop_first h.loop.1 (show Op.whileStart ≠ .repeatStart by decide)
        (hall k (Nat.le_refl k) (by rw [size]; omega))
  | times body count next ihBody ihNext =>
      obtain ⟨-, -, -, hnext⟩ := h.times
      obtain ⟨hself, -, hmarkedNext⟩ := hmarked
      rw [idle, Bool.and_eq_true, ← hself, ihNext hnext hmarkedNext, size]
      constructor
      · rintro ⟨hinert, hall⟩ n hlo hhi
        rcases Nat.lt_or_ge n (k + body.size + 2) with hlt | hge
        · exact ⟨k, _, h.spans, hinert, Nat.le_refl k, hlo, by omega, by omega⟩
        · obtain ⟨s, e, hspan, hin, hs, hsn, hne, he⟩ := hall n hge (by omega)
          exact ⟨s, e, hspan, hin, by omega, hsn, hne, by omega⟩
      · intro hall
        constructor
        · obtain ⟨s, e, hspan, hin, hs, hsk, -⟩ := hall k (Nat.le_refl k) (by omega)
          obtain rfl : s = k := by omega
          exact hin
        · intro n hlo hhi
          obtain ⟨s, e, hspan, hin, hs, hsn, hne, he⟩ := hall n (by omega) (by omega)
          exact ⟨s, e, hspan, hin, h.behind hspan hs hlo hne, hsn, hne, by omega⟩

/-! ## On the way -/

/-- From the beginning of a block that is not idle the bookkeeping goes forward
to a turn of the block. -/
theorem LaidAt.exists_turn {b : Block} (h : LaidAt p b k) (hmarked : Marked p.inert b k)
    (hbusy : b.idle = false) (counters : List Nat) :
    ∃ m n counters', p.FreePath m k counters n counters' ∧ p.TurnAt n ∧
      k + m ≤ n ∧ n < k + b.size := by
  -- The counters are generalized because a loop that is entered adds its own.
  induction b generalizing k counters with
  | done => cases hbusy
  | act action next ih =>
      refine ⟨0, k, counters, .stay, ⟨_, h.act.1, ?_⟩, by omega, by rw [size]; omega⟩
      cases action <;> rfl
  | loop body next ihBody ihNext =>
      exact ⟨0, k, counters, .stay, ⟨_, h.loop.1, rfl⟩, by omega, by rw [size]; omega⟩
  | times body count next ihBody ihNext =>
      obtain ⟨hfirst, hbody, -, hnext⟩ := h.times
      obtain ⟨hself, hmarkedBody, hmarkedNext⟩ := hmarked
      rw [idle] at hbusy
      rw [size]
      by_cases hmark : (count == 0 || body.idle) = true
      · rw [hmark] at hself
        rw [hmark, Bool.true_and] at hbusy
        obtain ⟨m, n, counters', hpath, hturn, hlo, hhi⟩ :=
          ihNext hnext hmarkedNext hbusy counters
        exact ⟨m + 1, n, counters', .move (.skip hfirst rfl rfl hself) hpath, hturn,
          by omega, by omega⟩
      · have hmark := eq_false_of_ne_true hmark
        rw [hmark] at hself
        obtain ⟨m, n, counters', hpath, hturn, hlo, hhi⟩ :=
          ihBody hbody hmarkedBody (Bool.or_eq_false_iff.mp hmark).2 (0 :: counters)
        exact ⟨m + 1, n, counters', .move (.enter hfirst rfl hself) hpath, hturn,
          by omega, by omega⟩

end Places

/-! ## A loop in its place -/

/-- Each start of a counted loop begins one of the tree, with the mark that the
tree gives it. -/
theorem LaidAt.exists_times {p : Program} {b : Block} {k n : Nat} {i : Instruction}
    (h : LaidAt p b k) (hmarked : Marked p.inert b k) (hlo : k ≤ n)
    (hhi : n < k + b.size) (hi : p[n]? = some i) (hop : i.op = .repeatStart) :
    ∃ body count next, LaidAt p (.times body count next) n ∧
      Marked p.inert (.times body count next) n := by
  induction b generalizing k with
  | done =>
      rw [size] at hhi
      omega
  | act action next ih =>
      rw [size] at hhi
      rcases Nat.eq_or_lt_of_le hlo with rfl | hlo
      · rw [h.act.1] at hi
        cases hi
        cases action <;> cases hop
      · exact ih h.act.2 hmarked hlo (by omega)
  | loop body next ihBody ihNext =>
      obtain ⟨hfirst, hbody, hlast, hnext⟩ := h.loop
      rw [size] at hhi
      rcases Nat.eq_or_lt_of_le hlo with rfl | hlo
      · rw [hfirst] at hi
        cases hi
        cases hop
      rcases Nat.lt_trichotomy n (k + body.size + 1) with hlt | rfl | hgt
      · exact ihBody hbody hmarked.1 hlo (by omega)
      · rw [hlast] at hi
        cases hi
        cases hop
      · exact ihNext hnext hmarked.2 hgt (by omega)
  | times body count next ihBody ihNext =>
      obtain ⟨hfirst, hbody, hlast, hnext⟩ := h.times
      rw [size] at hhi
      rcases Nat.eq_or_lt_of_le hlo with rfl | hlo
      · exact ⟨body, count, next, h, hmarked⟩
      rcases Nat.lt_trichotomy n (k + body.size + 1) with hlt | rfl | hgt
      · exact ihBody hbody hmarked.2.1 hlo (by omega)
      · rw [hlast] at hi
        cases hi
        cases hop
      · exact ihNext hnext hmarked.2.2 hgt (by omega)

/-- A counted loop is laid out where it is laid out with something behind it. -/
theorem LaidAt.alone {p : Program} {body next : Block} {count k : Nat}
    (h : LaidAt p (.times body count next) k) :
    LaidAt p (.times body count .done) k := by
  have hwhole : Holds p k ((Block.times body count .done).codeAt k ++
      next.codeAt (k + body.size + 2)) := by
    rw [LaidAt, codeAt] at h
    rw [codeAt, codeAt, List.append_assoc]
    exact h
  exact hwhole.left

end Block

/-- A bot that comes to a turn by free moves takes that turn next. -/
theorem Agent.step_of_freePath {a : Agent} {m k n : Nat} {counters : List Nat}
    (ha : a.Checked k) (hpath : a.program.FreePath m k a.counters n counters)
    (hm : m < patience a.program) {turn : Instruction}
    (hturn : a.program[n]? = some turn) (hop : turn.op.isLoopControl = false)
    (zero : Bool) : a.step zero = .ok ((a.at_ n counters).execute turn zero) := by
  obtain ⟨extra, hextra⟩ : ∃ extra, patience a.program = m + (extra + 1) :=
    ⟨patience a.program - m - 1, by omega⟩
  have hsettle : a.settle = .ok (a.at_ n counters) := by
    rw [settle_eq ha, hextra, Program.settleFrom_of_freePath ha.valid hpath,
      Program.settleFrom_of_atRest (.inr ⟨turn, hturn, hop⟩)]
    rfl
  have hat : (a.at_ n counters).program.at? (a.at_ n counters).pointer = some turn :=
    (Program.at?_natCast _ n).trans hturn
  rw [step_of_settle hsettle, takeTurn, hat]

/-- The table of inert loops is exact. Each start of a counted loop in a compiled
program begins a loop `(body)*count`, and it is marked just when nothing that
takes a turn is left of that loop after it was written out with all loops in it,
which is so just when its count is zero or every instruction of its body is in
a marked loop of the body. If it is not marked, each of its passes takes a turn:
a bot that stands at the beginning of the body, whatever it has counted, takes
its next turn in the body, whatever the cell is. -/
theorem compiled_loops_are_marked_iff_turnless {source : Source} {p : Program}
    (h : source.compile = .ok p) {k : Nat} {i : Instruction} (hi : p[k]? = some i)
    (hop : i.op = .repeatStart) :
    ∃ (body : Block) (count : Nat), Block.LaidAt p (.times body count .done) k ∧
      (p.inertAt k = true ↔
        ∀ j ∈ (Block.times body count .done).unrolled.program,
          j.op.isLoopControl = true) ∧
      (p.inertAt k = true ↔
        count = 0 ∨ ∀ n, k < n → n < k + 1 + body.size →
          Block.InMarkedLoop p (k + 1) (k + 1 + body.size) n) ∧
      (p.inertAt k = false →
        ∀ a : Agent, a.program = p → a.inert = p.inert → a.pointer = k + 1 →
          ∃ n turn counters, k < n ∧ n < k + 1 + body.size ∧ p[n]? = some turn ∧
            turn.op.isLoopControl = false ∧
            ∀ zero, a.step zero = .ok ((a.at_ n counters).execute turn zero)) := by
  obtain ⟨b, -, rfl⟩ := Source.compile_eq_ok_iff.mp h
  have hk := Program.lt_size_of_getElem? hi
  rw [Block.size_program] at hk
  obtain ⟨body, count, next, hlaid, hmarked⟩ :=
    b.laidAt_program.exists_times b.marked_program (Nat.zero_le k) (by omega) hi hop
  obtain ⟨-, hbody, -, -⟩ := hlaid.times
  obtain ⟨hself, hmarkedBody, -⟩ := hmarked
  have hmark : b.program.inertAt k = (count == 0 || body.idle) := hself
  refine ⟨body, count, hlaid.alone, ?_, ?_, ?_⟩
  · rw [Block.turnless_iff_idle, hmark, Block.idle, Block.idle, Bool.and_true]
  · rw [hmark, Bool.or_eq_true, beq_iff_eq, hbody.idle_iff hmarkedBody]
    rfl
  · intro hnot a hprogram hinert hpointer
    rw [hmark, Bool.or_eq_false_iff] at hnot
    obtain ⟨m, n, counters, hpath, ⟨turn, hturn, hturnOp⟩, hlo, hhi⟩ :=
      hbody.exists_turn hmarkedBody hnot.2 a.counters
    have hsize := Program.lt_size_of_getElem? hturn
    refine ⟨n, turn, counters, by omega, hhi, hturn, hturnOp, fun zero => ?_⟩
    rw [← hprogram] at hpath hturn hsize hinert
    have ha : a.Checked (k + 1) :=
      ⟨hprogram ▸ b.sound_program.valid, hinert, hpointer, by omega⟩
    have hpatience := Agent.size_lt_patience a.program
    exact Agent.step_of_freePath ha hpath (by omega) hturn hturnOp zero

/-- The theorem at two loops that both hold a loop which is never run. Of the
second one nothing is left. The first one has a turn behind it, and a bot at the
beginning of the second pass takes that next. -/
theorem compiled_loops_are_marked_iff_turnless_hidden :
    ∃ p : Program, (⟨"", "((-)*0+)*2((-)*0)*5"⟩ : Source).compile = .ok p ∧
      p.inertAt 0 = false ∧ p.inertAt 6 = true ∧
      (∃ n turn counters, 0 < n ∧ p[n]? = some turn ∧ turn.op.isLoopControl = false ∧
        ∀ zero, ((Agent.new p 10 .normal .normal).at_ 1 [1]).step zero =
          .ok (((Agent.new p 10 .normal .normal).at_ n counters).execute turn zero)) ∧
      ∃ body count, Block.LaidAt p (.times body count .done) 6 ∧
        ∀ j ∈ (Block.times body count .done).unrolled.program,
          j.op.isLoopControl = true := by
  have hparse : (⟨"", "((-)*0+)*2((-)*0)*5"⟩ : Source).parse =
      .ok (.times (.times (.act .decrement .done) 0 (.act .increment .done)) 2
        (.times (.times (.act .decrement .done) 0 .done) 5 .done)) := by cbv
  have hcompile := Source.compile_eq_ok_iff.mpr ⟨_, hparse, rfl⟩
  refine ⟨_, hcompile, by decide, by decide, ?_, ?_⟩
  · obtain ⟨_, _, -, -, -, hpass⟩ :=
      compiled_loops_are_marked_iff_turnless hcompile (k := 0) rfl rfl
    obtain ⟨n, turn, counters, hn, -, hturn, hop, hstep⟩ :=
      hpass (by decide) ((Agent.new _ 10 .normal .normal).at_ 1 [1]) rfl rfl rfl
    exact ⟨n, turn, counters, hn, hturn, hop, hstep⟩
  · obtain ⟨body, count, hlaid, hunrolled, -, -⟩ :=
      compiled_loops_are_marked_iff_turnless hcompile (k := 6) rfl rfl
    exact ⟨body, count, hlaid, hunrolled.mp (by decide)⟩

end TapeDuel
