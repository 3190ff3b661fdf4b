import TapeDuel.Program.Instruction

/-!
# Words of brackets

Forget the operands of a program and what is left is a word of operations. The
ends of its loops are brackets of two kinds, and `Nested` is the grammar of the
words in which each bracket is closed by its own kind. `Matched` says of two
places that they are the two ends of one loop, by the grammar alone: what stands
between them is nested.

Grammars are good for building words and bad for reading them. `closes` reads a
word from left to right with a stack of open brackets, as a compiler does.
Reading a nested word leaves the stack as it was, so no nested word has a bracket
of its own left over at either end. That is why a bracket has one partner only.
-/

namespace TapeDuel

namespace Op

def isBracket (op : Op) : Bool :=
  op.partner?.isSome

/-- The partner of an opening bracket closes, and names it back. -/
theorem closes_of_opens {op close : Op} (hopen : op.opensLoop = true)
    (hpartner : op.partner? = some close) :
    close.partner? = some op ∧ close.opensLoop = false := by
  cases op <;> cases hopen <;> cases hpartner <;> exact ⟨rfl, rfl⟩

end Op

/-! ## Nested words -/

/-- Every bracket of the word is closed by its own kind. -/
inductive Nested : List Op → Prop where
  | nil : Nested []
  | plain {op : Op} {rest : List Op} (hplain : op.partner? = none)
      (hrest : Nested rest) : Nested (op :: rest)
  | pair {op close : Op} {inner rest : List Op} (hopen : op.opensLoop = true)
      (hpartner : op.partner? = some close) (hinner : Nested inner)
      (hrest : Nested rest) : Nested (op :: inner ++ close :: rest)

theorem Nested.filter_isBracket {w : List Op} (h : Nested w) :
    Nested (w.filter Op.isBracket) := by
  induction h with
  | nil => exact .nil
  | @plain op rest hplain _ ih =>
      rw [List.filter_cons_of_neg (by simp [Op.isBracket, hplain])]
      exact ih
  | @pair op close inner rest hopen hpartner _ _ ihInner ihRest =>
      obtain ⟨hback, -⟩ := Op.closes_of_opens hopen hpartner
      rw [List.filter_append, List.filter_cons_of_pos (by simp [Op.isBracket, hpartner]),
        List.filter_cons_of_pos (by simp [Op.isBracket, hback])]
      exact .pair hopen hpartner ihInner ihRest

/-! ## Reading a word with a stack -/

/-- Whether a word closes the brackets that are open, innermost first, and all
its own. -/
def closes : List Op → List Op → Bool
  | opened, [] => opened.isEmpty
  | opened, op :: rest =>
    match op.partner? with
    | none => closes opened rest
    | some partner =>
      if op.opensLoop then closes (op :: opened) rest
      else
        match opened with
        | [] => false
        | top :: outer => top == partner && closes outer rest

section Closes

variable {op partner : Op} {opened rest : List Op}

theorem closes_plain (h : op.partner? = none) :
    closes opened (op :: rest) = closes opened rest := by
  rw [closes, h]

theorem closes_open (hopen : op.opensLoop = true) :
    closes opened (op :: rest) = closes (op :: opened) rest := by
  cases op <;> cases hopen <;> rfl

theorem closes_close_nil (hclose : op.opensLoop = false)
    (hpartner : op.partner? = some partner) : closes [] (op :: rest) = false := by
  rw [closes, hpartner]
  simp only [hclose]
  rfl

theorem closes_close_cons {top : Op} (hclose : op.opensLoop = false)
    (hpartner : op.partner? = some partner) :
    closes (top :: opened) (op :: rest) =
      (top == partner && closes opened rest) := by
  rw [closes, hpartner]
  simp only [hclose]
  rfl

theorem closes_filter_isBracket (w opened : List Op) :
    closes opened (w.filter Op.isBracket) = closes opened w := by
  induction w generalizing opened with
  | nil => rfl
  | cons op rest ih =>
      cases hpartner : op.partner? with
      | none =>
          rw [List.filter_cons_of_neg (by simp [Op.isBracket, hpartner]),
            closes_plain hpartner, ih]
      | some partner =>
          rw [List.filter_cons_of_pos (by simp [Op.isBracket, hpartner])]
          cases hopen : op.opensLoop with
          | true => rw [closes_open hopen, closes_open hopen, ih]
          | false =>
              cases opened with
              | nil =>
                  rw [closes_close_nil hopen hpartner,
                    closes_close_nil hopen hpartner]
              | cons top outer =>
                  rw [closes_close_cons hopen hpartner,
                    closes_close_cons hopen hpartner, ih]

/-- Reading a nested word leaves the stack as it was. -/
theorem Nested.closes_append {w : List Op} (h : Nested w)
    (opened rest : List Op) : closes opened (w ++ rest) = closes opened rest := by
  induction h generalizing opened rest with
  | nil => rfl
  | plain hplain _ ih => rw [List.cons_append, closes_plain hplain, ih]
  | pair hopen hpartner _ _ ihInner ihRest =>
      obtain ⟨hback, hclose⟩ := Op.closes_of_opens hopen hpartner
      rw [List.append_assoc, List.cons_append, closes_open hopen, ihInner,
        List.cons_append, closes_close_cons hclose hback, ihRest,
        beq_self_eq_true, Bool.true_and]

theorem Nested.closes {w : List Op} (h : Nested w) : closes [] w = true := by
  have := h.closes_append [] []
  rwa [List.append_nil] at this

/-- A bracket that nothing closes any more is never closed. -/
theorem closes_append_open {inner : List Op} (hinner : Nested inner)
    (hopen : op.opensLoop = true) (w opened : List Op) :
    TapeDuel.closes opened (w ++ op :: inner) = false := by
  induction w generalizing opened with
  | nil =>
      have := hinner.closes_append (op :: opened) []
      rw [List.append_nil] at this
      rw [List.nil_append, closes_open hopen, this]
      rfl
  | cons op' w ih =>
      rw [List.cons_append]
      cases hpartner : op'.partner? with
      | none => rw [closes_plain hpartner, ih]
      | some partner =>
          cases hopen' : op'.opensLoop with
          | true => rw [closes_open hopen', ih]
          | false =>
              cases opened with
              | nil => exact closes_close_nil hopen' hpartner
              | cons top outer =>
                  rw [closes_close_cons hopen' hpartner, ih, Bool.and_false]

end Closes

/-! ## The two ends of a loop -/

/-- The brackets at the places `s` and `e` are the two ends of one loop. -/
structure Matched (w : List Op) (s e : Nat) : Prop where
  ends : ∃ (before : List Op) (op : Op) (inner : List Op) (close : Op)
    (behind : List Op), w = before ++ op :: (inner ++ close :: behind) ∧
      before.length = s ∧ s + inner.length + 1 = e ∧ op.opensLoop = true ∧
      op.partner? = some close ∧ Nested inner

/-- Of two nested words that begin the same text and are followed by a closing
bracket, neither is shorter. -/
theorem length_le_of_nested {u v x y : List Op} {op start : Op}
    (hu : Nested u) (hv : Nested v) (hclose : op.opensLoop = false)
    (hpartner : op.partner? = some start) (h : u ++ op :: x = v ++ y) :
    v.length ≤ u.length := by
  refine Nat.not_lt.mp fun hlt => ?_
  obtain ⟨z, rfl⟩ : ∃ z, v = u ++ op :: z := by
    have hprefix : u ++ [op] <+: v := by
      refine List.prefix_of_prefix_length_le ⟨x, ?_⟩ ⟨y, h.symm⟩ ?_
      · rw [List.append_assoc, List.singleton_append]
      · rw [List.length_append, List.length_singleton]
        omega
    obtain ⟨z, hz⟩ := hprefix
    exact ⟨z, by rw [← hz, List.append_assoc, List.singleton_append]⟩
  -- The second word would close a bracket that it does not hold.
  have hclosed := hv.closes
  rw [hu.closes_append, closes_close_nil hclose hpartner] at hclosed
  cases hclosed

namespace Matched

variable {w : List Op} {s e : Nat}

theorem lt (h : Matched w s e) : s < e := by
  obtain ⟨before, op, inner, close, behind, -, -, he, -⟩ := h.ends
  omega

theorem stop_unique {e' : Nat} (h : Matched w s e) (h' : Matched w s e') :
    e = e' := by
  obtain ⟨before, op, inner, close, behind, hw, hs, he, hopen, hpartner,
    hinner⟩ := h.ends
  obtain ⟨before', op', inner', close', behind', hw', hs', he', hopen',
    hpartner', hinner'⟩ := h'.ends
  rw [hw] at hw'
  obtain ⟨-, hsuffix⟩ := List.append_inj hw' (by omega)
  obtain ⟨rfl, hrest⟩ := List.cons.inj hsuffix
  obtain ⟨hback, hclose⟩ := Op.closes_of_opens hopen hpartner
  obtain ⟨hback', hclose'⟩ := Op.closes_of_opens hopen' hpartner'
  have hle := length_le_of_nested hinner hinner' hclose hback hrest
  have hle' := length_le_of_nested hinner' hinner hclose' hback' hrest.symm
  omega

/-- What closes later opens earlier. -/
theorem start_le {s' : Nat} (h : Matched w s e) (h' : Matched w s' e) :
    s' ≤ s := by
  obtain ⟨before, op, inner, close, behind, hw, hs, he, hopen, hpartner,
    hinner⟩ := h.ends
  obtain ⟨before', op', inner', close', behind', hw', hs', he', hopen',
    hpartner', hinner'⟩ := h'.ends
  refine Nat.not_lt.mp fun hlt => ?_
  have hlen : before.length + 1 ≤ before'.length := by omega
  -- The other loop would lie inside this one, up to the same end.
  obtain ⟨mid, rfl⟩ : ∃ mid, inner = mid ++ op' :: inner' := by
    have hsplit : (before ++ op :: inner) ++ close :: behind =
        (before' ++ op' :: inner') ++ close' :: behind' := by
      rw [List.append_assoc, List.append_assoc, List.cons_append,
        List.cons_append, ← hw, ← hw']
    obtain ⟨hfront, -⟩ := List.append_inj hsplit (by simp; omega)
    have hprefix : before ++ [op] <+: before' := by
      refine List.prefix_of_prefix_length_le ⟨inner, ?_⟩
        ⟨op' :: inner', hfront.symm⟩ ?_
      · rw [List.append_assoc, List.singleton_append]
      · rw [List.length_append, List.length_singleton]
        exact hlen
    obtain ⟨mid, rfl⟩ := hprefix
    refine ⟨mid, ?_⟩
    rw [List.append_assoc, List.append_assoc, List.singleton_append] at hfront
    exact (List.cons.inj (List.append_cancel_left hfront)).2
  have hclosed := hinner.closes
  rw [closes_append_open hinner' hopen'] at hclosed
  cases hclosed

theorem start_unique {s' : Nat} (h : Matched w s e) (h' : Matched w s' e) :
    s = s' :=
  Nat.le_antisymm (h'.start_le h) (h.start_le h')

theorem opens (h : Matched w s e) : ∃ op, w[s]? = some op ∧ op.opensLoop = true := by
  obtain ⟨before, op, inner, close, behind, rfl, rfl, -, hopen, -⟩ := h.ends
  exact ⟨op, by simp, hopen⟩

theorem closes (h : Matched w s e) : ∃ op, w[e]? = some op ∧ op.opensLoop = false := by
  obtain ⟨before, op, inner, close, behind, rfl, rfl, rfl, hopen, hpartner, -⟩ :=
    h.ends
  refine ⟨close, ?_, (Op.closes_of_opens hopen hpartner).2⟩
  rw [List.getElem?_append_right (by omega),
    show before.length + inner.length + 1 - before.length = inner.length + 1 by
      omega, List.getElem?_cons_succ,
    List.getElem?_append_right (Nat.le_refl _), Nat.sub_self]
  rfl

end Matched

/-- The brackets at two places belong together. -/
def Partners (w : List Op) (k t : Nat) : Prop :=
  Matched w k t ∨ Matched w t k

theorem Partners.unique {w : List Op} {k t t' : Nat} (h : Partners w k t)
    (h' : Partners w k t') : t = t' := by
  have hway : ∀ {s e : Nat}, Matched w k e → ¬ Matched w s k := by
    intro s e hopens hcloses
    obtain ⟨op, hop, hopen⟩ := hopens.opens
    obtain ⟨op', hop', hclose⟩ := hcloses.closes
    rw [hop] at hop'
    cases hop'
    rw [hopen] at hclose
    cases hclose
  rcases h with h | h <;> rcases h' with h' | h'
  · exact h.stop_unique h'
  · exact absurd h' (hway h)
  · exact absurd h (hway h')
  · exact h.start_unique h'

end TapeDuel
