import TapeDuel.Proofs.Nesting
import TapeDuel.Source.Compile

/-!
# The layout of a tree

Laying out a block writes the start of a loop twice: first a placeholder, and
the finished instruction when the end of the loop is known. `Block.codeAt` is
what remains, written in one go, and `toList_layOnto` says that the two agree.

`Block.LaidAt` is the same list read back from any program that holds it, one
constructor of the tree at a time. Statements about compiled programs are
proved for blocks in their place inside a larger program, by induction on the
tree. Two come out of it here: a compiled program passes the check for stored
programs, and its counted loops nest. So everything that is true of sound
programs is true of compiled ones.
-/

namespace TapeDuel

namespace Block

/-- The instructions of a block that starts at the place `k`. -/
def codeAt : Block → Nat → List Instruction
  | done, _ => []
  | act action next, k => .plain action.op :: next.codeAt (k + 1)
  | loop body next, k =>
    .linked .whileStart (k + body.size + 1) :: body.codeAt (k + 1) ++
      .linked .whileEnd k :: next.codeAt (k + body.size + 2)
  | times body count next, k =>
    .linked .repeatStart (k + body.size + 1) :: body.codeAt (k + 1) ++
      .repeatEnd k count :: next.codeAt (k + body.size + 2)

theorem length_codeAt (b : Block) (k : Nat) : (b.codeAt k).length = b.size := by
  induction b generalizing k with
  | done => rfl
  | act action next ih => rw [codeAt, List.length_cons, ih, size]
  | loop body next ihBody ihNext =>
      rw [codeAt, List.length_append, List.length_cons, List.length_cons,
        ihBody, ihNext, size]
      omega
  | times body count next ihBody ihNext =>
      rw [codeAt, List.length_append, List.length_cons, List.length_cons,
        ihBody, ihNext, size]
      omega

/-- The code of a loop of either kind: patching its placeholder and appending
its end leaves the finished instructions around the code of the body. -/
theorem toList_patched {body next : Block} {code : Program}
    (hbody : ∀ code : Program,
      (body.layOnto code).toList = code.toList ++ body.codeAt code.size)
    (hnext : ∀ code : Program,
      (next.layOnto code).toList = code.toList ++ next.codeAt code.size)
    (placeholder last : Instruction) (first : Nat → Instruction)
    {inner : Program} (hinner : inner = body.layOnto (code.push placeholder)) :
    (next.layOnto ((inner.setIfInBounds code.size (first inner.size)).push
        last)).toList =
      code.toList ++ (first (code.size + body.size + 1) ::
        body.codeAt (code.size + 1) ++
          last :: next.codeAt (code.size + body.size + 2)) := by
  have hlist : inner.toList =
      code.toList ++ placeholder :: body.codeAt (code.size + 1) := by
    rw [hinner, hbody, Array.toList_push, Array.size_push]
    simp
  have hsize : inner.size = code.size + body.size + 1 := by
    rw [← Array.length_toList, hlist, List.length_append, List.length_cons,
      length_codeAt, Array.length_toList]
    omega
  rw [hnext, Array.toList_push, Array.toList_setIfInBounds, hlist,
    Array.size_push, Array.size_setIfInBounds, hsize, ← Array.length_toList]
  simp

/-- Laying out a block appends its code. -/
theorem toList_layOnto (b : Block) (code : Program) :
    (b.layOnto code).toList = code.toList ++ b.codeAt code.size := by
  induction b generalizing code with
  | done => rw [layOnto, codeAt, List.append_nil]
  | act action next ih =>
      rw [layOnto, ih, codeAt, Array.toList_push, Array.size_push]
      simp
  | loop body next ihBody ihNext =>
      exact toList_patched ihBody ihNext _ _ (.linked .whileStart ·) rfl
  | times body count next ihBody ihNext =>
      exact toList_patched ihBody ihNext _ _ (.linked .repeatStart ·) rfl

theorem toList_program (b : Block) : b.program.toList = b.codeAt 0 := by
  rw [program, toList_layOnto]
  rfl

theorem size_program (b : Block) : b.program.size = b.size := by
  rw [← Array.length_toList, toList_program, length_codeAt]

/-! ## A block in its place -/

/-- The program holds the list of instructions from the place `k` on. -/
def Holds (p : Program) (k : Nat) (code : List Instruction) : Prop :=
  ∀ (n : Nat) (i : Instruction), code[n]? = some i → p[k + n]? = some i

theorem Holds.head {p : Program} {k : Nat} {i : Instruction}
    {code : List Instruction} (h : Holds p k (i :: code)) : p[k]? = some i :=
  h 0 i rfl

theorem Holds.tail {p : Program} {k : Nat} {i : Instruction}
    {code : List Instruction} (h : Holds p k (i :: code)) :
    Holds p (k + 1) code := by
  intro n j hj
  have := h (n + 1) j hj
  rwa [← Nat.add_assoc, Nat.add_right_comm] at this

theorem Holds.left {p : Program} {k : Nat} {code code' : List Instruction}
    (h : Holds p k (code ++ code')) : Holds p k code := by
  intro n i hi
  refine h n i ?_
  rw [List.getElem?_append_left (List.getElem?_eq_some_iff.mp hi).1, hi]

theorem Holds.right {p : Program} {k : Nat} {code code' : List Instruction}
    (h : Holds p k (code ++ code')) : Holds p (k + code.length) code' := by
  intro n i hi
  rw [Nat.add_assoc]
  refine h _ i ?_
  rw [List.getElem?_append_right (Nat.le_add_right _ _),
    Nat.add_sub_cancel_left, hi]

/-- The program holds the code of the block from the place `k` on. -/
def LaidAt (p : Program) (b : Block) (k : Nat) : Prop :=
  Holds p k (b.codeAt k)

theorem laidAt_program (b : Block) : LaidAt b.program b 0 := by
  intro n i hi
  rw [Nat.zero_add, ← Array.getElem?_toList, toList_program, hi]

section LaidAt

variable {p : Program} {body next : Block} {k : Nat}

theorem LaidAt.act {action : Action} (h : LaidAt p (act action next) k) :
    p[k]? = some (.plain action.op) ∧ LaidAt p next (k + 1) :=
  ⟨h.head, h.tail⟩

/-- The parts of a loop of either kind. -/
theorem Holds.enclosed {first last : Instruction}
    (h : Holds p k (first :: body.codeAt (k + 1) ++
      last :: next.codeAt (k + body.size + 2))) :
    p[k]? = some first ∧ LaidAt p body (k + 1) ∧
      p[k + body.size + 1]? = some last ∧
      LaidAt p next (k + body.size + 2) := by
  have hright := h.right
  rw [List.length_cons, length_codeAt, ← Nat.add_assoc] at hright
  exact ⟨h.left.head, h.left.tail, hright.head, hright.tail⟩

theorem LaidAt.loop (h : LaidAt p (loop body next) k) :
    p[k]? = some (.linked .whileStart (k + body.size + 1)) ∧
      LaidAt p body (k + 1) ∧
      p[k + body.size + 1]? = some (.linked .whileEnd k) ∧
      LaidAt p next (k + body.size + 2) :=
  Holds.enclosed h

theorem LaidAt.times {count : Nat} (h : LaidAt p (times body count next) k) :
    p[k]? = some (.linked .repeatStart (k + body.size + 1)) ∧
      LaidAt p body (k + 1) ∧
      p[k + body.size + 1]? = some (.repeatEnd k count) ∧
      LaidAt p next (k + body.size + 2) :=
  Holds.enclosed h

end LaidAt

end Block

/-! ## Compiled programs are sound -/

namespace Program

/-- A loop instruction whose partner names it back, the right way round, has
no flaw. -/
theorem instructionFlaw?_eq_none {p : Program} {k t : Nat} {i j : Instruction}
    (hpartner : i.op.partner? = some j.op) (ht : i.target = t)
    (hj : p[t]? = some j) (hback : j.target = k)
    (hway : i.op.opensLoop = decide (k < t))
    (hpos : i.op = .repeatEnd → 0 ≤ i.iterations) :
    p.instructionFlaw? k i = none := by
  have hloop : p.loopFlaw? k i j.op = none := by
    simp only [loopFlaw?, ht, at?_natCast, hj]
    rw [if_neg (by simp [hback]), if_neg (by simp [hway]),
      if_neg fun hneg => Int.not_lt.mpr (hpos hneg.1) hneg.2]
  rw [instructionFlaw?]
  split
  · next code h hop =>
      rw [hop] at hpartner
      cases hpartner
  · rw [hpartner]
    exact hloop

namespace Spans

variable {p : Program} {op : Op} {s e : Nat}

theorem opens_flaw? (h : p.Spans op s e) (hop : op.opensLoop = true)
    {i : Instruction} (hi : p[s]? = some i) (hpos : 0 ≤ i.iterations) :
    p.instructionFlaw? s i = none := by
  obtain ⟨i', hi', rfl, ht⟩ := h.opens
  obtain ⟨j, hj, hpartner, hback⟩ := h.closes
  rw [hi] at hi'
  cases hi'
  refine instructionFlaw?_eq_none hpartner ht hj hback ?_ fun _ => hpos
  rw [hop, decide_eq_true h.lt]

theorem closes_flaw? (h : p.Spans op s e) (hop : op.opensLoop = true)
    {j : Instruction} (hj : p[e]? = some j) (hpos : 0 ≤ j.iterations) :
    p.instructionFlaw? e j = none := by
  obtain ⟨i, hi, rfl, ht⟩ := h.opens
  obtain ⟨j', hj', hpartner, hback⟩ := h.closes
  rw [hj] at hj'
  cases hj'
  have hends : j.op.partner? = some i.op ∧ j.op.opensLoop = false := by
    cases hi : i.op <;> simp [hi, Op.opensLoop] at hop <;>
      simp [hi, Op.partner?] at hpartner <;>
      simp [← hpartner, Op.partner?, Op.opensLoop]
  refine instructionFlaw?_eq_none hends.1 hback hi ht ?_ fun _ => hpos
  rw [hends.2, decide_eq_false (Nat.not_lt_of_lt h.lt)]

end Spans

end Program

namespace Block

/-- What a place of a laid out block can hold: something that takes no
partner, or an end of a loop that lies within the block. -/
inductive Placed (p : Program) (lo hi n : Nat) : Prop
  | action {action : Action} (at_ : p[n]? = some (.plain action.op))
  | opens {op : Op} {e : Nat} (opensLoop : op.opensLoop = true)
      (spans : p.Spans op n e) (at_ : p[n]? = some (.linked op e))
      (lo_le : lo ≤ n) (lt_hi : e < hi)
  | closes {op : Op} {s : Nat} {i : Instruction} (opensLoop : op.opensLoop = true)
      (spans : p.Spans op s n) (at_ : p[n]? = some i)
      (iterations : 0 ≤ i.iterations) (lo_le : lo ≤ s) (lt_hi : n < hi)

theorem Placed.mono {p : Program} {lo hi lo' hi' n : Nat}
    (h : Placed p lo hi n) (hlo : lo' ≤ lo) (hhi : hi ≤ hi') :
    Placed p lo' hi' n := by
  cases h with
  | action at_ => exact .action at_
  | opens hop hspan at_ hle hlt =>
      exact .opens hop hspan at_ (Nat.le_trans hlo hle) (by omega)
  | closes hop hspan at_ hpos hle hlt =>
      exact .closes hop hspan at_ hpos (Nat.le_trans hlo hle) (by omega)

/-- The partner of a loop instruction lies within the block. -/
theorem Placed.target {p : Program} {lo hi n : Nat} {i : Instruction}
    (h : Placed p lo hi n) (hi' : p[n]? = some i)
    (hpartner : i.op.partner?.isSome) : lo ≤ i.target ∧ i.target < hi := by
  cases h with
  | @action action at_ =>
      rw [at_] at hi'
      cases hi'
      cases action <;> cases hpartner
  | opens hop hspan at_ hle hlt =>
      obtain ⟨j, hj, -, ht⟩ := hspan.opens
      rw [hj] at hi'
      cases hi'
      have := hspan.lt
      omega
  | closes hop hspan at_ hpos hle hlt =>
      obtain ⟨j, hj, -, ht⟩ := hspan.closes
      rw [hj] at hi'
      cases hi'
      have := hspan.lt
      omega

theorem Placed.flaw? {p : Program} {lo hi n : Nat} {i : Instruction}
    (h : Placed p lo hi n) (hi' : p[n]? = some i) :
    p.instructionFlaw? n i = none := by
  cases h with
  | @action action at_ =>
      rw [at_] at hi'
      cases hi'
      cases action <;> rfl
  | opens hop hspan at_ =>
      rw [at_] at hi'
      cases hi'
      exact hspan.opens_flaw? hop at_ (Int.le_refl 0)
  | closes hop hspan at_ hpos =>
      rw [at_] at hi'
      cases hi'
      exact hspan.closes_flaw? hop at_ hpos

section Placed

variable {p : Program} {body next : Block} {k : Nat}

/-- The places of a loop of either kind are its two ends, those of its body
and those of what follows. -/
theorem placed_of_enclosed {op : Op} {last : Instruction}
    (hop : op.opensLoop = true) (hpartner : op.partner? = some last.op)
    (hback : last.target = k) (hpos : 0 ≤ last.iterations)
    (hfirst : p[k]? = some (.linked op (k + body.size + 1)))
    (hlast : p[k + body.size + 1]? = some last)
    (hbody : ∀ n, k + 1 ≤ n → n < k + 1 + body.size →
      Placed p (k + 1) (k + 1 + body.size) n)
    (hnext : ∀ n, k + body.size + 2 ≤ n → n < k + body.size + 2 + next.size →
      Placed p (k + body.size + 2) (k + body.size + 2 + next.size) n) :
    ∀ n, k ≤ n → n < k + (body.size + next.size + 2) →
      Placed p k (k + (body.size + next.size + 2)) n := by
  intro n hlo hhi
  have hspan : p.Spans op k (k + body.size + 1) :=
    ⟨by omega, ⟨_, hfirst, rfl, rfl⟩, ⟨_, hlast, hpartner, hback⟩⟩
  rcases Nat.eq_or_lt_of_le hlo with rfl | hlo
  · exact .opens hop hspan hfirst (Nat.le_refl _) (by omega)
  rcases Nat.lt_trichotomy n (k + body.size + 1) with hlt | rfl | hgt
  · exact (hbody n hlo (by omega)).mono (by omega) (by omega)
  · exact .closes hop hspan hlast hpos (Nat.le_refl _) (by omega)
  · exact (hnext n hgt (by omega)).mono (by omega) (by omega)

theorem LaidAt.placed {b : Block} (h : LaidAt p b k) :
    ∀ n, k ≤ n → n < k + b.size → Placed p k (k + b.size) n := by
  induction b generalizing k with
  | done =>
      intro n hlo hhi
      rw [size] at hhi
      omega
  | act action next ih =>
      intro n hlo hhi
      rw [size] at hhi ⊢
      rcases Nat.eq_or_lt_of_le hlo with rfl | hlo
      · exact .action h.act.1
      · exact (ih h.act.2 n hlo (by omega)).mono (by omega) (by omega)
  | loop body next ihBody ihNext =>
      obtain ⟨hfirst, hbody, hlast, hnext⟩ := h.loop
      exact placed_of_enclosed rfl rfl rfl (Int.le_refl 0) hfirst hlast
        (ihBody hbody) (ihNext hnext)
  | times body count next ihBody ihNext =>
      obtain ⟨hfirst, hbody, hlast, hnext⟩ := h.times
      exact placed_of_enclosed rfl rfl rfl (Int.natCast_nonneg count) hfirst
        hlast (ihBody hbody) (ihNext hnext)

/-- Each counted loop of a laid out block holds both ends of another loop or
neither. -/
theorem LaidAt.nest {b : Block} (h : LaidAt p b k) {s m : Nat}
    {i j : Instruction} (hlo : k ≤ s) (hhi : s < k + b.size)
    (hi : p[s]? = some i) (hop : i.op = .repeatStart) (hj : p[m]? = some j)
    (hpartner : j.op.partner?.isSome) (hsm : s < m) (hmt : m < i.target) :
    s < j.target ∧ j.target < i.target := by
  induction b generalizing k with
  | done =>
      rw [size] at hhi
      omega
  | act action next ih =>
      rw [size] at hhi
      rcases Nat.eq_or_lt_of_le hlo with rfl | hlo
      · rw [h.act.1] at hi
        cases hi
        cases action <;> cases hop
      · exact ih h.act.2 hlo (by omega)
  | loop body next ihBody ihNext =>
      obtain ⟨hfirst, hbody, hlast, hnext⟩ := h.loop
      rw [size] at hhi
      rcases Nat.eq_or_lt_of_le hlo with rfl | hlo
      · rw [hfirst] at hi
        cases hi
        cases hop
      rcases Nat.lt_trichotomy s (k + body.size + 1) with hlt | rfl | hgt
      · exact ihBody hbody hlo (by omega)
      · rw [hlast] at hi
        cases hi
        cases hop
      · exact ihNext hnext hgt (by omega)
  | times body count next ihBody ihNext =>
      obtain ⟨hfirst, hbody, hlast, hnext⟩ := h.times
      rw [size] at hhi
      rcases Nat.eq_or_lt_of_le hlo with rfl | hlo
      · rw [hfirst] at hi
        cases hi
        -- Inside this loop lies its body, and the body holds both ends of
        -- every loop of its own.
        have htarget : (Instruction.linked .repeatStart
          (k + body.size + 1)).target = (k + body.size + 1 : Nat) := rfl
        have hin := (hbody.placed m hsm (by omega)).target hj hpartner
        omega
      rcases Nat.lt_trichotomy s (k + body.size + 1) with hlt | rfl | hgt
      · exact ihBody hbody hlo (by omega)
      · rw [hlast] at hi
        cases hi
        cases hop
      · exact ihNext hnext hgt (by omega)

end Placed

/-- The program of a tree is sound. -/
theorem sound_program (b : Block) : b.program.Sound := by
  have hlaid := laidAt_program b
  have hplace : ∀ {n : Nat} {i : Instruction}, b.program[n]? = some i →
      n < 0 + b.size := by
    intro n i hi
    have := Program.lt_size_of_getElem? hi
    rw [size_program] at this
    omega
  constructor
  · refine Program.validate_eq_ok_iff.mpr fun n i hi => ?_
    exact (hlaid.placed n (Nat.zero_le n) (hplace hi)).flaw? hi
  · intro s m i j hi hop hj hpartner hsm hmt
    exact hlaid.nest (Nat.zero_le s) (hplace hi) hi hop hj hpartner hsm hmt

end Block

namespace Source

theorem compile_eq_ok_iff {s : Source} {p : Program} :
    s.compile = .ok p ↔ ∃ b, s.parse = .ok b ∧ p = b.program := by
  rw [compile]
  cases s.parse with
  | error problems => exact ⟨nofun, nofun⟩
  | ok b =>
      constructor
      · intro h
        cases h
        exact ⟨b, rfl, rfl⟩
      · rintro ⟨b', h, rfl⟩
        cases h
        rfl

theorem sound_of_compile {s : Source} {p : Program} (h : s.compile = .ok p) :
    p.Sound := by
  obtain ⟨b, -, rfl⟩ := compile_eq_ok_iff.mp h
  exact b.sound_program

end Source

end TapeDuel
