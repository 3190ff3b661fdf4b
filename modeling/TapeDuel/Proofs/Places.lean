import Mathlib.Data.List.DropRight
import TapeDuel.Proofs.Signs

/-!
# Places in a source, byte by byte

A reader knows where it stands because its position has moved past one rune after
the other. `Text.placeBehind` says the same of the bytes alone: how many there
are, how many of them are newlines, and how many runes the last line has.

The two agree because a text may be cut between any two of its runes. What is in
front of the cut has the runes that it had in the whole text, and so has what is
behind it (`Cut.of_front`, `Cut.of_behind`). The last line begins at such a cut, for a
newline is a rune of its own; and so is every other ASCII byte, whatever broken
sequence stands before it (`exists_cut_of_ascii`).
-/

namespace TapeDuel

namespace Text

/-! ## Cuts between runes -/

theorem runesFrom_eq_runes_drop (skip : Nat) (t : Text) :
    runesFrom skip t = runes (t.drop skip) := by
  induction t generalizing skip with
  | nil =>
      rw [List.drop_nil]
      rfl
  | cons b rest ih =>
      cases skip with
      | zero => rfl
      | succ skip => exact ih skip

theorem runes_cons (b : UInt8) (rest : Text) :
    runes (b :: rest) = (b :: rest.take (runeWidth b rest - 1)) ::
      runes (rest.drop (runeWidth b rest - 1)) := by
  rw [runes, runesFrom, runesFrom_eq_runes_drop]

theorem runeWidth_le (b : UInt8) (rest : Text) :
    runeWidth b rest - 1 ≤ rest.length := by
  unfold runeWidth
  grind

/-- The first rune is found without the bytes that are behind it. -/
theorem runeWidth_of_front {b : UInt8} {part whole : Text} (h : part <+: whole)
    (hlong : runeWidth b whole - 1 ≤ part.length) :
    runeWidth b part = runeWidth b whole := by
  obtain ⟨tail, rfl⟩ := h
  match part with
  | [] | [_] | [_, _] | _ :: _ :: _ :: _ =>
    revert hlong
    unfold runeWidth
    grind

/-- The pieces are the runes of the text that they make up. -/
def Cut (pieces : List Text) : Prop :=
  runes pieces.flatten = pieces

theorem cut_runes (t : Text) : Cut t.runes := by
  rw [Cut, flatten_runes]

section Cut

variable {piece : Text} {pieces front behind : List Text}

theorem Cut.isRune (h : Cut pieces) : ∀ piece ∈ pieces, IsRune piece := by
  intro piece hmem
  rw [← h] at hmem
  exact isRune_of_mem hmem

/-- The first piece is as long as the first rune, and the others are runes of what
is left. -/
theorem cut_cons_iff :
    Cut (piece :: pieces) ↔
      ∃ b tail, piece = b :: tail ∧
        runeWidth b (tail ++ pieces.flatten) - 1 = tail.length ∧ Cut pieces := by
  rw [Cut, List.flatten_cons]
  constructor
  · intro h
    cases hpiece : piece ++ pieces.flatten with
    | nil =>
        rw [hpiece] at h
        cases h
    | cons b rest =>
        rw [hpiece, runes_cons] at h
        obtain ⟨rfl, hrest⟩ := List.cons.inj h
        rw [List.cons_append] at hpiece
        have hpieces := (List.cons.inj hpiece).2
        have hdrop : pieces.flatten = rest.drop (runeWidth b rest - 1) := by
          refine List.append_cancel_left (hpieces.trans ?_)
          rw [List.take_append_drop]
        refine ⟨b, _, rfl, ?_, ?_⟩
        · rw [hpieces, List.length_take, Nat.min_eq_left (runeWidth_le b rest)]
        · rw [Cut, hdrop, hrest]
  · rintro ⟨b, tail, rfl, hwidth, hcut⟩
    rw [List.cons_append, runes_cons, hwidth, List.take_left, List.drop_left, hcut]

theorem Cut.of_behind (h : Cut (front ++ behind)) : Cut behind := by
  induction front with
  | nil => exact h
  | cons piece front ih =>
      obtain ⟨-, -, -, -, h⟩ := cut_cons_iff.mp h
      exact ih h

theorem Cut.of_front (h : Cut (front ++ behind)) : Cut front := by
  induction front with
  | nil => rfl
  | cons piece front ih =>
      rw [List.cons_append, cut_cons_iff] at h
      obtain ⟨b, tail, rfl, hwidth, h⟩ := h
      have hprefix : tail ++ front.flatten <+: tail ++ (front ++ behind).flatten := by
        rw [List.flatten_append]
        exact (List.prefix_append_right_inj tail).mpr (List.prefix_append _ _)
      refine cut_cons_iff.mpr ⟨b, tail, rfl, ?_, ih h⟩
      rw [runeWidth_of_front hprefix, hwidth]
      rw [hwidth, List.length_append]
      exact Nat.le_add_right _ _

/-- An ASCII byte stands alone between two runes. -/
theorem exists_cut_of_ascii (hpieces : ∀ piece ∈ pieces, IsRune piece) {b : UInt8}
    (hb : b < 0x80) {before rest : Text}
    (h : pieces.flatten = before ++ b :: rest) :
    ∃ front behind, pieces = front ++ [b] :: behind ∧ front.flatten = before ∧
      behind.flatten = rest := by
  induction pieces generalizing before with
  | nil => simp at h
  | cons piece pieces ih =>
      obtain ⟨hpiece, hothers⟩ := List.forall_mem_cons.mp hpieces
      rw [List.flatten_cons] at h
      cases hpiece with
      | single c =>
          rw [List.singleton_append] at h
          cases before with
          | nil =>
              obtain ⟨rfl, hrest⟩ := List.cons.inj h
              exact ⟨[], pieces, rfl, rfl, hrest⟩
          | cons c' before =>
              obtain ⟨rfl, htail⟩ := List.cons.inj h
              obtain ⟨front, behind, rfl, rfl, rfl⟩ := ih hothers htail
              exact ⟨[c] :: front, behind, rfl, rfl, rfl⟩
      | @wide c tail hwide =>
          rcases List.append_eq_append_iff.mp h with
            ⟨before', rfl, hlater⟩ | ⟨inner, hinner, hlater⟩
          · obtain ⟨front, behind, rfl, rfl, rfl⟩ := ih hothers hlater
            exact ⟨(c :: tail) :: front, behind, rfl, rfl, rfl⟩
          · -- The rune ends where the byte stands, or has it inside.
            cases inner with
            | nil =>
                obtain ⟨front, behind, rfl, hfront, rfl⟩ :=
                  @ih hothers [] hlater.symm
                refine ⟨(c :: tail) :: front, behind, rfl, ?_, rfl⟩
                rw [List.flatten_cons, hfront, hinner, List.append_nil, List.append_nil]
            | cons b' inner =>
                -- The byte would belong to the rune.
                obtain ⟨rfl, -⟩ := List.cons.inj hlater
                have hmem : b ∈ c :: tail := by
                  rw [hinner]
                  exact List.mem_append_right _ List.mem_cons_self
                exact absurd (UInt8.lt_of_lt_of_le hb (hwide b hmem)) (UInt8.lt_irrefl b)

end Cut

/-! ## Positions -/

/-- What a text has behind its last newline. -/
def lastLine (t : Text) : Text :=
  t.rtakeWhile fun b => b ≠ byte '\n'

/-- The place behind a text. -/
def placeBehind (before : Text) : Position where
  offset := before.length
  line := 1 + before.count (byte '\n')
  column := 1 + before.lastLine.runes.length

section Positions

variable {piece : Text} {pieces : List Text}

theorem lastLine_append {t tail : Text} (h : ∀ b ∈ tail, b ≠ byte '\n') :
    lastLine (t ++ tail) = lastLine t ++ tail := by
  have hall : ∀ b ∈ tail.reverse, decide (b ≠ byte '\n') = true := by
    simpa using h
  rw [lastLine, List.rtakeWhile, List.reverse_append, List.takeWhile_append_of_pos hall,
    List.reverse_append, List.reverse_reverse]
  rfl

/-- A rune is a newline or has none. -/
theorem IsRune.eq_newline_or (h : IsRune piece) :
    piece = [byte '\n'] ∨ ∀ b ∈ piece, b ≠ byte '\n' := by
  cases h with
  | single b => simpa using Decidable.em (b = byte '\n')
  | wide hwide =>
      right
      rintro b hb rfl
      exact absurd (hwide _ hb) (by decide)

theorem lastLine_flatten (h : ∀ piece ∈ pieces, IsRune piece) :
    lastLine pieces.flatten =
      (pieces.rtakeWhile fun piece => piece ≠ [byte '\n']).flatten := by
  induction pieces using List.reverseRecOn with
  | nil => rfl
  | append_singleton pieces piece ih =>
      rw [List.forall_mem_append, List.forall_mem_singleton] at h
      rw [List.flatten_append, List.flatten_singleton, List.rtakeWhile_concat]
      rcases h.2.eq_newline_or with rfl | hline
      · simp [lastLine]
      · have hne : piece ≠ [byte '\n'] := by
          rintro rfl
          exact hline _ List.mem_cons_self rfl
        rw [lastLine_append hline, ih h.1, if_pos (decide_eq_true hne),
          List.flatten_append, List.flatten_singleton]

theorem Cut.runes_lastLine (h : Cut pieces) :
    (lastLine pieces.flatten).runes =
      pieces.rtakeWhile fun piece => piece ≠ [byte '\n'] := by
  obtain ⟨front, hfront⟩ :=
    List.rtakeWhile_suffix (p := fun piece : Text => decide (piece ≠ [byte '\n']))
      (l := pieces)
  rw [lastLine_flatten h.isRune]
  rw [← hfront] at h
  exact h.of_behind

/-- One rune more moves the place as it moves a reader. -/
theorem Cut.placeBehind_concat (h : Cut (pieces ++ [piece])) :
    placeBehind (pieces ++ [piece]).flatten =
      (placeBehind pieces.flatten).after piece := by
  rw [placeBehind, placeBehind, Position.after, h.runes_lastLine,
    h.of_front.runes_lastLine, List.rtakeWhile_concat, List.flatten_append,
    List.flatten_singleton]
  rcases (h.isRune piece (by simp)).eq_newline_or with rfl | hline
  · simp [Int.add_assoc]
  · have hne : piece ≠ [byte '\n'] := by
      rintro rfl
      exact hline _ List.mem_cons_self rfl
    have hcount : piece.count (byte '\n') = 0 :=
      List.count_eq_zero.mpr fun hmem => hline _ hmem rfl
    simp [hne, hcount, Int.add_assoc]

end Positions

end Text

end TapeDuel
