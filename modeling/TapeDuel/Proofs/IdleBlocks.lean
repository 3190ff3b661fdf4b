import TapeDuel.Proofs.InertScan
import TapeDuel.Proofs.Layout

/-!
# Blocks with nothing to do

On a tree it is plain which counted loops take no turn: those that run zero
times, and those whose body is idle. The scan for inert loops does not see the
tree. It reads the instructions of a block one after the other, and what it
has done behind the last of them is said here in one equation: the block has
noted a turn for the loop around it exactly when it is not idle, and it has
marked exactly the counted loops that are inert on the tree.
-/

namespace TapeDuel.Block

/-- Whether nothing in a block ever takes a turn. -/
def idle : Block → Bool
  | done => true
  | act _ _ => false
  | loop _ _ => false
  | times body count next => (count == 0 || body.idle) && next.idle

/-- The marks that scanning a block at the place `k` leaves. -/
def mark : Block → Nat → Array Bool → Array Bool
  | done, _, inert => inert
  | act _ next, k, inert => next.mark (k + 1) inert
  | loop body next, k, inert =>
    next.mark (k + body.size + 2) (body.mark (k + 1) inert)
  | times body count next, k, inert =>
    next.mark (k + body.size + 2)
      ((body.mark (k + 1) inert).setIfInBounds k (count == 0 || body.idle))

/-! ## The scan of a block -/

theorem noteTurn_noteTurn (opened : List ScannedLoop) :
    InertScan.noteTurn (InertScan.noteTurn opened) =
      InertScan.noteTurn opened := by
  cases opened <;> rfl

/-- A turn noted already is not noted again. -/
theorem noteTurn_if (idle : Bool) (opened : List ScannedLoop) :
    (if idle then InertScan.noteTurn opened
      else InertScan.noteTurn (InertScan.noteTurn opened)) =
      InertScan.noteTurn opened := by
  cases idle
  · exact noteTurn_noteTurn opened
  · rfl

theorem visit_action (action : Action) (k : Nat) (opened : List ScannedLoop)
    (inert : Array Bool) :
    InertScan.visit ⟨k, opened, inert⟩ (.plain action.op) =
      ⟨k + 1, InertScan.noteTurn opened, inert⟩ := by
  cases action <;> rfl

/-- The end of a counted loop marks its start, and unless it does, counts as a
turn of the loop around it. -/
theorem visit_repeatEnd (e k count : Nat) (idle : Bool)
    (opened : List ScannedLoop) (inert : Array Bool) :
    InertScan.visit
        ⟨e, if idle then ⟨k, false⟩ :: opened
          else InertScan.noteTurn (⟨k, false⟩ :: opened), inert⟩
        (.repeatEnd k count) =
      ⟨e + 1, if count == 0 || idle then opened
          else InertScan.noteTurn opened,
        inert.setIfInBounds k (count == 0 || idle)⟩ := by
  have hmark : (idle || decide (((count : Nat) : Int) ≤ 0)) =
      (count == 0 || idle) := by
    rw [Bool.or_comm, show (count == 0) = decide (((count : Nat) : Int) ≤ 0) by
      rw [Bool.eq_iff_iff]
      simp]
  rw [← hmark]
  cases idle <;> rfl

/-- What the scan has done behind a block. -/
theorem foldl_visit_codeAt (b : Block) (k : Nat) (opened : List ScannedLoop)
    (inert : Array Bool) :
    (b.codeAt k).foldl InertScan.visit ⟨k, opened, inert⟩ =
      ⟨k + b.size, if b.idle then opened else InertScan.noteTurn opened,
        b.mark k inert⟩ := by
  -- The stack is generalized because a counted loop scans its body with itself
  -- on top, and the table because the body leaves its marks for what follows.
  induction b generalizing k opened inert with
  | done => rfl
  | act action next ih =>
      rw [codeAt, List.foldl_cons, visit_action, ih, noteTurn_if, size, mark]
      congr 1
      omega
  | loop body next ihBody ihNext =>
      have hstart : InertScan.visit ⟨k, opened, inert⟩
          (.linked .whileStart (k + body.size + 1)) =
          ⟨k + 1, InertScan.noteTurn opened, inert⟩ := rfl
      have hstop : ∀ inert', InertScan.visit
          ⟨k + 1 + body.size, InertScan.noteTurn opened, inert'⟩
          (.linked .whileEnd k) =
          ⟨k + body.size + 2, InertScan.noteTurn opened, inert'⟩ := by
        intro inert'
        rw [show k + body.size + 2 = k + 1 + body.size + 1 by omega]
        exact congrArg (InertScan.mk _ · _) (noteTurn_noteTurn opened)
      rw [codeAt, List.foldl_append, List.foldl_cons, List.foldl_cons, hstart,
        ihBody, noteTurn_if, hstop, ihNext, noteTurn_if, size, mark]
      congr 1
      omega
  | times body count next ihBody ihNext =>
      have hstart : InertScan.visit ⟨k, opened, inert⟩
          (.linked .repeatStart (k + body.size + 1)) =
          ⟨k + 1, ⟨k, false⟩ :: opened, inert⟩ := rfl
      rw [codeAt, List.foldl_append, List.foldl_cons, List.foldl_cons, hstart,
        ihBody, visit_repeatEnd,
        show k + 1 + body.size + 1 = k + body.size + 2 by omega, ihNext, size,
        mark, idle]
      congr 1
      · omega
      · cases (count == 0 || body.idle) <;> cases next.idle
        · exact noteTurn_noteTurn opened
        · rfl
        · rfl
        · rfl

theorem inert_program (b : Block) :
    b.program.inert = b.mark 0 (Array.replicate b.size false) := by
  rw [Program.inert, ← Array.foldl_toList, toList_program, size_program,
    InertScan.start, foldl_visit_codeAt]

/-! ## The marks of a block in its place -/

theorem size_mark (b : Block) (k : Nat) (inert : Array Bool) :
    (b.mark k inert).size = inert.size := by
  induction b generalizing k inert with
  | done => rfl
  | act action next ih => rw [mark, ih]
  | loop body next ihBody ihNext => rw [mark, ihNext, ihBody]
  | times body count next ihBody ihNext =>
      rw [mark, ihNext, Array.size_setIfInBounds, ihBody]

/-- A block marks nothing but its own places. -/
theorem getD_mark (b : Block) {k n : Nat} (inert : Array Bool)
    (h : n < k ∨ k + b.size ≤ n) :
    (b.mark k inert).getD n false = inert.getD n false := by
  induction b generalizing k inert with
  | done => rfl
  | act action next ih =>
      rw [size] at h
      rw [mark, ih _ (by omega)]
  | loop body next ihBody ihNext =>
      rw [size] at h
      rw [mark, ihNext _ (by omega), ihBody _ (by omega)]
  | times body count next ihBody ihNext =>
      rw [size] at h
      rw [mark, ihNext _ (by omega),
        Program.getD_setIfInBounds_of_ne (by omega), ihBody _ (by omega)]

/-- The table marks the counted loops of a block at the place `k` as the tree
says. -/
def Marked (inert : Array Bool) : Block → Nat → Prop
  | done, _ => True
  | act _ next, k => Marked inert next (k + 1)
  | loop body next, k =>
    Marked inert body (k + 1) ∧ Marked inert next (k + body.size + 2)
  | times body count next, k =>
    inert.getD k false = (count == 0 || body.idle) ∧
      Marked inert body (k + 1) ∧ Marked inert next (k + body.size + 2)

theorem Marked.congr {inert inert' : Array Bool} {b : Block} {k : Nat}
    (h : Marked inert b k)
    (hsame : ∀ n, k ≤ n → n < k + b.size →
      inert'.getD n false = inert.getD n false) :
    Marked inert' b k := by
  induction b generalizing k with
  | done => trivial
  | act action next ih =>
      rw [size] at hsame
      exact ih h fun n hlo hhi => hsame n (by omega) (by omega)
  | loop body next ihBody ihNext =>
      rw [size] at hsame
      exact ⟨ihBody h.1 fun n hlo hhi => hsame n (by omega) (by omega),
        ihNext h.2 fun n hlo hhi => hsame n (by omega) (by omega)⟩
  | times body count next ihBody ihNext =>
      rw [size] at hsame
      refine ⟨?_, ihBody h.2.1 fun n hlo hhi => hsame n (by omega) (by omega),
        ihNext h.2.2 fun n hlo hhi => hsame n (by omega) (by omega)⟩
      rw [hsame k (Nat.le_refl k) (by omega)]
      exact h.1

theorem marked_mark (b : Block) {k : Nat} (inert : Array Bool)
    (h : k + b.size ≤ inert.size) : Marked (b.mark k inert) b k := by
  induction b generalizing k inert with
  | done => trivial
  | act action next ih =>
      rw [size] at h
      exact ih inert (by omega)
  | loop body next ihBody ihNext =>
      rw [size] at h
      rw [mark]
      constructor
      · refine (ihBody inert (by omega)).congr fun n hlo hhi => ?_
        exact getD_mark next _ (.inl (by omega))
      · exact ihNext _ (by rw [size_mark]; omega)
  | times body count next ihBody ihNext =>
      rw [size] at h
      rw [mark]
      refine ⟨?_, ?_, ?_⟩
      · rw [getD_mark next _ (.inl (by omega))]
        exact Program.getD_setIfInBounds_self _ (by rw [size_mark]; omega)
      · refine (ihBody inert (by omega)).congr fun n hlo hhi => ?_
        rw [getD_mark next _ (.inl (by omega)),
          Program.getD_setIfInBounds_of_ne (by omega)]
      · exact ihNext _ (by rw [Array.size_setIfInBounds, size_mark]; omega)

theorem marked_program (b : Block) : Marked b.program.inert b 0 := by
  rw [inert_program]
  exact marked_mark b _ (by rw [Array.size_replicate]; omega)

end TapeDuel.Block
