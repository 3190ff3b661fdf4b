import Mathlib
import TapeDuel.Text.Quoted
import TapeDuel.Proofs.Places

/-!
# Runes and the code points that they encode

A rune that has a code point is a well-formed sequence of one to four bytes
(`Text.isCharacter_of_mem`). It is the one way to write its code point
(`Text.IsCharacter.exists_codePoint`), and it is cut off as one rune whatever stands
behind it (`Text.IsCharacter.runes_append`). So texts that are made of such runes can
be strung together, and the whole is cut where they were.
-/

namespace TapeDuel.Text

/-- The well-formed sequences, by the number of their bytes. -/
inductive IsCharacter : Text → Prop where
  | one {b : UInt8} (hb : b < 0x80) : IsCharacter [b]
  | two {b c : UInt8} (hb : 0xC2 ≤ b ∧ b ≤ 0xDF) (hc : mayFollow b c = true) :
      IsCharacter [b, c]
  | three {b c d : UInt8} (hb : 0xE0 ≤ b ∧ b ≤ 0xEF) (hc : mayFollow b c = true)
      (hd : isContinuation d = true) : IsCharacter [b, c, d]
  | four {b c d e : UInt8} (hb : 0xF0 ≤ b ∧ b ≤ 0xF4) (hc : mayFollow b c = true)
      (hd : isContinuation d = true) (he : isContinuation e = true) :
      IsCharacter [b, c, d, e]

section Bounds

variable {b c : UInt8}

theorem bounds_of_mayFollow (h : mayFollow b c = true) :
    (0x80 ≤ c.toNat ∧ c.toNat ≤ 0xBF) ∧ (b.toNat = 0xE0 → 0xA0 ≤ c.toNat) ∧
      (b.toNat = 0xED → c.toNat ≤ 0x9F) ∧ (b.toNat = 0xF0 → 0x90 ≤ c.toNat) ∧
      (b.toNat = 0xF4 → c.toNat ≤ 0x8F) := by
  simp only [mayFollow, secondRange, Bool.and_eq_true, decide_eq_true_eq,
    UInt8.le_iff_toNat_le, ← UInt8.toNat_inj, UInt8.reduceToNat] at h
  split_ifs at h <;> simp only [UInt8.reduceToNat] at h <;> omega

theorem bounds_of_isContinuation (h : isContinuation c = true) :
    0x80 ≤ c.toNat ∧ c.toNat ≤ 0xBF := by
  simpa only [isContinuation, Bool.and_eq_true, decide_eq_true_eq,
    UInt8.le_iff_toNat_le, UInt8.reduceToNat] using h

end Bounds

/-- The first rune of a text is a stray byte, or it is well formed. -/
theorem isCharacter_take (b : UInt8) (rest : Text) :
    b :: rest.take (runeWidth b rest - 1) = [b] ∨
      IsCharacter (b :: rest.take (runeWidth b rest - 1)) := by
  have hstray : b :: rest.take (1 - 1) = [b] := rfl
  unfold runeWidth
  split
  · next hb =>
      simp only [Bool.and_eq_true, decide_eq_true_eq] at hb
      split
      · split
        · next hc => exact .inr (.two hb hc)
        · exact .inl hstray
      · exact .inl hstray
  · split
    · next hb =>
        simp only [Bool.and_eq_true, decide_eq_true_eq] at hb
        split
        · split
          · next h =>
              rw [Bool.and_eq_true] at h
              exact .inr (.three hb h.1 h.2)
          · exact .inl hstray
        · exact .inl hstray
    · split
      · next hb =>
          simp only [Bool.and_eq_true, decide_eq_true_eq] at hb
          split
          · split
            · next h =>
                simp only [Bool.and_eq_true] at h
                exact .inr (.four hb h.1.1 h.1.2 h.2)
            · exact .inl hstray
          · exact .inl hstray
      · exact .inl hstray

/-- A rune that has a code point is well formed. -/
theorem isCharacter_of_mem {t rune : Text} (hmem : rune ∈ t.runes)
    (hcode : (codePoint? rune).isSome = true) : IsCharacter rune := by
  obtain ⟨front, behind, hsplit⟩ := List.append_of_mem hmem
  have hcut : Cut (rune :: behind) := Cut.of_behind (hsplit ▸ cut_runes t)
  obtain ⟨b, tail, rfl, hwidth, -⟩ := cut_cons_iff.mp hcut
  have hfirst := isCharacter_take b (tail ++ behind.flatten)
  rw [hwidth, List.take_left] at hfirst
  rcases hfirst with hstray | hgood
  · rw [hstray] at hcode ⊢
    refine .one ?_
    by_contra hb
    rw [codePoint?, if_neg hb] at hcode
    cases hcode
  · exact hgood

namespace IsCharacter

variable {rune : Text}

/-- A well-formed sequence is one rune, whatever stands behind it. -/
theorem runes_append (h : IsCharacter rune) (rest : Text) :
    runes (rune ++ rest) = rune :: runes rest := by
  obtain ⟨b, tail, rfl, hwidth⟩ : ∃ b tail, rune = b :: tail ∧
      runeWidth b (tail ++ rest) - 1 = tail.length := by
    cases h with
    | one hb =>
        have hlow : ¬ (0xC2 : UInt8) ≤ _ := fun h =>
          absurd (UInt8.lt_of_le_of_lt h hb) (by decide)
        have hmid : ¬ (0xE0 : UInt8) ≤ _ := fun h =>
          absurd (UInt8.lt_of_le_of_lt h hb) (by decide)
        have htop : ¬ (0xF0 : UInt8) ≤ _ := fun h =>
          absurd (UInt8.lt_of_le_of_lt h hb) (by decide)
        refine ⟨_, [], rfl, ?_⟩
        simp [runeWidth, hlow, hmid, htop]
    | two hb hc =>
        refine ⟨_, _, rfl, ?_⟩
        simp [runeWidth, hb, hc]
    | three hb hc hd =>
        have hlow : ¬ _ ≤ (0xDF : UInt8) := fun h =>
          absurd (UInt8.le_trans hb.1 h) (by decide)
        refine ⟨_, _, rfl, ?_⟩
        simp [runeWidth, hlow, hb, hc, hd]
    | four hb hc hd he =>
        have hlow : ¬ _ ≤ (0xDF : UInt8) := fun h =>
          absurd (UInt8.le_trans hb.1 h) (by decide)
        have hmid : ¬ _ ≤ (0xEF : UInt8) := fun h =>
          absurd (UInt8.le_trans hb.1 h) (by decide)
        refine ⟨_, _, rfl, ?_⟩
        simp [runeWidth, hlow, hmid, hb, hc, hd, he]
  rw [List.cons_append, runes_cons, hwidth, List.take_left, List.drop_left]

/-- A well-formed sequence is an ASCII byte, or it has none. -/
theorem eq_or_wide (h : IsCharacter rune) :
    (∃ b, rune = [b] ∧ b < 0x80) ∨ ∀ b ∈ rune, 0x80 ≤ b := by
  have hcont : ∀ {c : UInt8}, isContinuation c = true → 0x80 ≤ c := fun hc =>
    UInt8.le_iff_toNat_le.mpr (bounds_of_isContinuation hc).1
  cases h with
  | one hb => exact .inl ⟨_, rfl, hb⟩
  | two hb hc =>
      have hb' := UInt8.le_trans (by decide : (0x80 : UInt8) ≤ 0xC2) hb.1
      exact .inr (by simpa using ⟨hb', le_of_mayFollow hc⟩)
  | three hb hc hd =>
      have hb' := UInt8.le_trans (by decide : (0x80 : UInt8) ≤ 0xE0) hb.1
      exact .inr (by simpa using ⟨hb', le_of_mayFollow hc, hcont hd⟩)
  | four hb hc hd he =>
      have hb' := UInt8.le_trans (by decide : (0x80 : UInt8) ≤ 0xF0) hb.1
      exact .inr (by simpa using ⟨hb', le_of_mayFollow hc, hcont hd, hcont he⟩)

/-- A well-formed sequence is what is written for its code point, and that is no half of
a pair. -/
theorem exists_codePoint (h : IsCharacter rune) :
    ∃ code, codePoint? rune = some code ∧ code.isValidChar ∧
      ofCodePoint code = rune := by
  have hbyte : ∀ {n : Nat} {b : UInt8}, n = b.toNat → UInt8.ofNat n = b := by
    rintro n b rfl
    exact UInt8.ofNat_toNat
  cases h with
  | @one b hb =>
      have hb' : b.toNat < 0x80 := UInt8.lt_iff_toNat_lt.mp hb
      refine ⟨b.toNat, if_pos hb, .inl (Nat.lt_trans hb' (by decide)), ?_⟩
      rw [ofCodePoint, if_pos hb', hbyte rfl]
  | @two b c hb hc =>
      simp only [UInt8.le_iff_toNat_le, UInt8.reduceToNat] at hb
      have hc' := bounds_of_mayFollow hc
      obtain ⟨code, hcode⟩ :
          ∃ code, code = (b.toNat - 0xC0) * 64 + (c.toNat - 0x80) := ⟨_, rfl⟩
      refine ⟨code, congrArg some hcode.symm, .inl (by omega), ?_⟩
      rw [ofCodePoint, if_neg (by omega), if_pos (by omega)]
      congr <;> exact hbyte (by omega)
  | @three b c d hb hc hd =>
      simp only [UInt8.le_iff_toNat_le, UInt8.reduceToNat] at hb
      have hc' := bounds_of_mayFollow hc
      have hd' := bounds_of_isContinuation hd
      obtain ⟨code, hcode⟩ : ∃ code, code =
          ((b.toNat - 0xE0) * 64 + (c.toNat - 0x80)) * 64 + (d.toNat - 0x80) := ⟨_, rfl⟩
      refine ⟨code, congrArg some hcode.symm, ?_, ?_⟩
      · unfold Nat.isValidChar
        omega
      · rw [ofCodePoint, if_neg (by omega), if_neg (by omega), if_pos (by omega)]
        congr <;> exact hbyte (by omega)
  | @four b c d e hb hc hd he =>
      simp only [UInt8.le_iff_toNat_le, UInt8.reduceToNat] at hb
      have hc' := bounds_of_mayFollow hc
      have hd' := bounds_of_isContinuation hd
      have he' := bounds_of_isContinuation he
      obtain ⟨code, hcode⟩ : ∃ code, code =
          (((b.toNat - 0xF0) * 64 + (c.toNat - 0x80)) * 64 + (d.toNat - 0x80)) * 64 +
            (e.toNat - 0x80) := ⟨_, rfl⟩
      refine ⟨code, congrArg some hcode.symm, ?_, ?_⟩
      · unfold Nat.isValidChar
        omega
      · rw [ofCodePoint, if_neg (by omega), if_neg (by omega), if_neg (by omega)]
        congr <;> exact hbyte (by omega)

/-- Well-formed sequences are the runes of what they make up. -/
theorem runes_flatten_append {pieces : List Text}
    (h : ∀ piece ∈ pieces, IsCharacter piece) (rest : Text) :
    runes (pieces.flatten ++ rest) = pieces ++ runes rest := by
  induction pieces with
  | nil => rfl
  | cons piece pieces ih =>
      obtain ⟨hpiece, hpieces⟩ := List.forall_mem_cons.mp h
      rw [List.flatten_cons, List.append_assoc, hpiece.runes_append, ih hpieces]
      rfl

end IsCharacter

end TapeDuel.Text
