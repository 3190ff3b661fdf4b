import Mathlib
import TapeDuel.Config.Quoted
import TapeDuel.Proofs.CodePoints
import TapeDuel.Proofs.Numerals

/-!
# Quoted texts in configuration files

Quoted texts are written rune by rune and read escape by escape, and each rune can be
looked at alone. A rune that stands as it is comes back as it is; so does one behind
an escape that the reader knows, be it a letter or the digits of a code point. The
escape that names the value of a byte is none of them. It is written for stray bytes
and for the control characters that have no letter, and a string that has it in it is
no string (`Quote.takeLine_quote`).
-/

namespace TapeDuel

/-! ## Printable characters -/

/-- No control character is printable, nor is the mark that may stand before a file. -/
theorem bounds_of_isPrintable {code : Nat} (h : isPrintable code = true) :
    0x20 ≤ code ∧ code ≠ 0x7F ∧ code ≠ 0xFEFF := by
  have hranges : (printableRanges.all fun range => 0x20 ≤ range.1 &&
      (range.2 < 0x7F || 0x7F < range.1) && (range.2 < 0xFEFF || 0xFEFF < range.1)) =
      true := by
    decide +kernel
  obtain ⟨range, hmem, hin⟩ := List.any_eq_true.mp h
  have hrange := List.all_eq_true.mp hranges range hmem
  simp only [Bool.and_eq_true, Bool.or_eq_true, decide_eq_true_eq] at hin hrange
  omega

namespace Config

open Text (byte IsCharacter)

/-- Whether a rune can be read from the way in which it is quoted: it is no stray
byte, and no control character without a letter. -/
def isSpellable (rune : Text) : Bool :=
  match rune.codePoint? with
  | none => false
  | some code => (Text.controlLetter? code).isSome || (0x20 ≤ code && code ≠ 0x7F)

namespace Quote

/-- The quote of a text on one line. -/
def double : Quote :=
  ⟨0, byte '"'⟩

/-- A text in front of one that has been read. -/
def prepend (s : Text) : Text × Stop × Text → Text × Stop × Text
  | (s', stop, rest) => (s ++ s', stop, rest)

section Steps

variable {n : Nat} {rest : Text}

theorem takeLine_closed :
    double.takeLine (n + 1) (byte '"' :: rest) = some ([], .closed, rest) := by
  rfl

theorem takeLine_escape (hrest : rest.head? ≠ some (byte '(')) :
    double.takeLine (n + 1) (byte '\\' :: rest) =
      match double.takeEscape rest with
      | none => none
      | some (character, after) =>
          (double.takeLine n after).map (prepend character) := by
  have hclosing : after? double.closing (byte '\\' :: rest) = none := rfl
  have hescape : after? double.escape (byte '\\' :: rest) = some rest := rfl
  rw [takeLine, hclosing, hescape]
  simp only [hrest, if_false]
  rfl

theorem takeLine_byte {b : UInt8}
    (hb : b ∉ [byte '"', byte '\\', byte '\n', byte '\r']) :
    double.takeLine (n + 1) (b :: rest) =
      (double.takeLine n rest).map (prepend [b]) := by
  simp only [List.mem_cons, List.not_mem_nil, or_false, not_or] at hb
  obtain ⟨hquote, hslash, hline, hreturn⟩ := hb
  have hclosing : after? double.closing (b :: rest) = none := by
    simp [after?, closing, signs, double, Ne.symm hquote]
  have hescape : after? double.escape (b :: rest) = none := by
    simp [after?, escape, signs, double, Ne.symm hslash]
  rw [takeLine, hclosing, hescape]
  simp only [hline, hreturn, decide_false, Bool.or_self, Bool.false_eq_true, if_false]
  rfl

theorem takeLine_bytes {bytes : Text}
    (hbytes : ∀ b ∈ bytes, b ∉ [byte '"', byte '\\', byte '\n', byte '\r']) :
    double.takeLine (bytes.length + n) (bytes ++ rest) =
      (double.takeLine n rest).map (prepend bytes) := by
  induction bytes with
  | nil =>
      rw [List.length_nil, Nat.zero_add]
      exact Option.map_id'.symm
  | cons b bytes ih =>
      obtain ⟨hb, hbytes⟩ := List.forall_mem_cons.mp hbytes
      rw [List.length_cons, Nat.add_right_comm, List.cons_append, takeLine_byte hb,
        ih hbytes, Option.map_map]
      rfl

end Steps

/-! ## Escapes -/

section Escapes

variable {rune rest : Text} {code : Nat}

theorem takeCode_hexadecimal {k : Nat} (hcode : code < 16 ^ k) :
    takeCode 16 k (Text.hexadecimal k code ++ rest) = some (code, rest) := by
  obtain ⟨values, hdigits, hvalue⟩ := Text.mapM_digitValue?_hexadecimal k code
  have hlength := Text.length_hexadecimal k code
  have hlong : ¬ (Text.hexadecimal k code ++ rest).length < k := by
    rw [List.length_append, hlength]
    omega
  rw [takeCode, if_neg hlong, List.take_left' hlength, List.drop_left' hlength, hdigits,
    Option.map_some, hvalue, Nat.mod_eq_of_lt hcode]

/-- The digits of a code point stand for its rune. -/
theorem takeCharacter_of_takeUnit {letter : UInt8} {t : Text}
    (hunit : takeUnit letter t = some (code, rest)) (hvalid : code.isValidChar) :
    double.takeCharacter letter t = some (Text.ofCodePoint code, rest) := by
  have hhigh : isHigh code = false := by
    rcases hvalid with h | h <;> simp [isHigh] <;> omega
  have hlow : (isLow code || decide (0x10FFFF < code)) = false := by
    rcases hvalid with h | h <;> simp [isLow] <;> omega
  simp only [takeCharacter, hunit, hhigh, hlow, Option.bind_eq_bind, Option.bind_some,
    Bool.false_eq_true, if_false]

theorem takeEscape_short (hcode : code < 0x10000) (hvalid : code.isValidChar) :
    double.takeEscape (byte 'u' :: Text.hexadecimal 4 code ++ rest) =
      some (Text.ofCodePoint code, rest) := by
  have hunit : takeUnit (byte 'u') (Text.hexadecimal 4 code ++ rest) =
      some (code, rest) := by
    rw [takeUnit, if_pos rfl]
    exact takeCode_hexadecimal (k := 4) hcode
  exact takeCharacter_of_takeUnit hunit hvalid

theorem takeEscape_long (hvalid : code.isValidChar) :
    double.takeEscape (byte 'U' :: Text.hexadecimal 8 code ++ rest) =
      some (Text.ofCodePoint code, rest) := by
  have hcode : code < 16 ^ 8 := by
    rcases hvalid with h | h <;> omega
  have hunit : takeUnit (byte 'U') (Text.hexadecimal 8 code ++ rest) =
      some (code, rest) := by
    rw [takeUnit, if_neg (by decide), if_pos rfl]
    exact takeCode_hexadecimal hcode
  exact takeCharacter_of_takeUnit hunit hvalid

theorem takeEscape_letter {letter : Char} (h : Text.controlLetter? code = some letter) :
    double.takeEscape (byte letter :: rest) = some (Text.ofCodePoint code, rest) ∧
      byte letter ≠ byte '(' := by
  unfold Text.controlLetter? at h
  split at h <;> cases h
  all_goals exact ⟨rfl, by decide⟩

end Escapes

/-! ## Runes -/

theorem valueEscape_eq : Text.ofString "\\x" = [byte '\\', byte 'x'] := by
  cbv

theorem shortEscape_eq : Text.ofString "\\u" = [byte '\\', byte 'u'] := by
  cbv

theorem longEscape_eq : Text.ofString "\\U" = [byte '\\', byte 'U'] := by
  cbv

/-- The forms in which a rune is quoted, and whether it can be read from them. -/
inductive QuotedRune (rune : Text) : Bool → Text → Prop where
  | plain (hne : rune ≠ [])
      (hplain : ∀ b ∈ rune, b ∉ [byte '"', byte '\\', byte '\n', byte '\r']) :
      QuotedRune rune true rune
  | escape {written : Text}
      (hread : ∀ rest, (written ++ rest).head? ≠ some (byte '(') ∧
        double.takeEscape (written ++ rest) = some (rune, rest)) :
      QuotedRune rune true (byte '\\' :: written)
  | value {digits : Text} : QuotedRune rune false (byte '\\' :: byte 'x' :: digits)

/-- A rune that is neither a control character nor written with a backslash stands as
it is. -/
theorem QuotedRune.of_code {rune : Text} {code : Nat} (hrune : IsCharacter rune)
    (hcode : rune.codePoint? = some code) (hlow : 0x20 ≤ code) (hquote : code ≠ 0x22)
    (hslash : code ≠ 0x5C) : QuotedRune rune true rune := by
  rcases hrune.eq_or_wide with ⟨b, rfl, hb⟩ | hwide
  · obtain rfl : b.toNat = code := by
      rw [Text.codePoint?, if_pos hb] at hcode
      exact Option.some.inj hcode
    refine .plain (List.cons_ne_nil _ _) ?_
    rw [List.forall_mem_singleton]
    intro hmem
    simp only [List.mem_cons, List.not_mem_nil, or_false] at hmem
    rcases hmem with rfl | rfl | rfl | rfl
    · exact hquote rfl
    · exact hslash rfl
    · exact absurd hlow (by decide)
    · exact absurd hlow (by decide)
  · refine .plain (by rintro rfl; cases hcode) fun b hmem hspecial => ?_
    have hlow : ([byte '"', byte '\\', byte '\n', byte '\r'].all fun c => c < 0x80) =
        true := rfl
    have hb := of_decide_eq_true (List.all_eq_true.mp hlow b hspecial)
    exact UInt8.lt_irrefl _ (UInt8.lt_of_le_of_lt (hwide b hmem) hb)

section Codes

variable {code : Nat}

/-- A quote or a backslash is its own escape. -/
theorem QuotedRune.self (h : code = 0x22 ∨ code = 0x5C) :
    QuotedRune (Text.ofCodePoint code) true (byte '\\' :: Text.ofCodePoint code) := by
  rcases h with rfl | rfl
  · exact .escape fun rest => ⟨nofun, rfl⟩
  · exact .escape fun rest => ⟨nofun, rfl⟩

theorem QuotedRune.letter {letter : Char} (h : Text.controlLetter? code = some letter) :
    QuotedRune (Text.ofCodePoint code) true [byte '\\', byte letter] := by
  refine .escape fun rest => ?_
  have htake : double.takeEscape ([byte letter] ++ rest) =
      some (Text.ofCodePoint code, rest) ∧
      byte letter ≠ byte '(' := takeEscape_letter h
  exact ⟨fun h => htake.2 (Option.some.inj h), htake.1⟩

theorem QuotedRune.digits (hvalid : code.isValidChar) :
    QuotedRune (Text.ofCodePoint code) true
      (if code < 0x10000 then Text.ofString "\\u" ++ Text.hexadecimal 4 code
        else Text.ofString "\\U" ++ Text.hexadecimal 8 code) := by
  split
  · next hshort =>
      rw [shortEscape_eq]
      exact .escape fun rest => ⟨nofun, takeEscape_short hshort hvalid⟩
  · rw [longEscape_eq]
    exact .escape fun rest => ⟨nofun, takeEscape_long hvalid⟩

end Codes

/-- How a rune is quoted, case by case as it is chosen. -/
theorem quotedRune {t rune : Text} (hmem : rune ∈ t.runes) :
    QuotedRune rune (isSpellable rune) (Text.quoteRune rune) := by
  cases hcode : rune.codePoint? with
  | none =>
      have hspellable : isSpellable rune = false := by rw [isSpellable, hcode]
      rw [hspellable, Text.quoteRune, hcode, valueEscape_eq]
      exact .value
  | some code =>
      have hcharacter := Text.isCharacter_of_mem hmem (by rw [hcode]; rfl)
      obtain ⟨code', hcode', hvalid, rfl⟩ := hcharacter.exists_codePoint
      obtain rfl : code' = code := Option.some.inj (hcode'.symm.trans hcode)
      simp only [isSpellable, Text.quoteRune, hcode, Bool.or_eq_true, decide_eq_true_eq]
      split
      · next hslashed =>
          rcases hslashed with rfl | rfl <;> exact .self (by decide)
      · next hslashed =>
          rw [not_or] at hslashed
          split
          · next hprintable =>
              have hbounds := bounds_of_isPrintable hprintable
              simpa [hbounds] using
                QuotedRune.of_code hcharacter hcode hbounds.1 hslashed.1 hslashed.2
          · cases hletter : Text.controlLetter? code' with
            | some letter => exact .letter hletter
            | none =>
                simp only [Option.isSome_none, Bool.false_or]
                split
                · next hcontrol =>
                    have hunspellable :
                        (decide (0x20 ≤ code') && decide (code' ≠ 0x7F)) = false := by
                      simp only [Bool.and_eq_false_iff, decide_eq_false_iff_not]
                      omega
                    rw [hunspellable, valueEscape_eq]
                    exact .value
                · next hcontrol =>
                    have hspellable :
                        (decide (0x20 ≤ code') && decide (code' ≠ 0x7F)) = true := by
                      simp only [Bool.and_eq_true, decide_eq_true_eq]
                      omega
                    rw [hspellable]
                    exact .digits hvalid

/-- A quoted rune is taken for the rune, or it ends the reading. -/
theorem QuotedRune.takeLine {rune written rest : Text} {spellable : Bool}
    (h : QuotedRune rune spellable written) {n : Nat}
    (hn : (written ++ rest).length ≤ n) :
    ∃ m, rest.length ≤ m ∧ double.takeLine n (written ++ rest) =
      if spellable then (double.takeLine m rest).map (prepend rune) else none := by
  rw [List.length_append] at hn
  cases h with
  | plain hne hplain =>
      obtain ⟨m, rfl⟩ := Nat.exists_eq_add_of_le (Nat.le_of_add_right_le hn)
      exact ⟨m, by omega, takeLine_bytes hplain⟩
  | @escape written hread =>
      rw [List.length_cons] at hn
      obtain ⟨m, rfl⟩ := Nat.exists_eq_add_of_le' (show 1 ≤ n by omega)
      obtain ⟨hbracket, htake⟩ := hread rest
      refine ⟨m, by omega, ?_⟩
      rw [List.cons_append, takeLine_escape hbracket, htake]
      rfl
  | value =>
      rw [List.length_cons] at hn
      obtain ⟨m, rfl⟩ := Nat.exists_eq_add_of_le' (show 1 ≤ n by omega)
      refine ⟨rest.length, Nat.le_refl _, ?_⟩
      rw [List.cons_append, takeLine_escape (by exact nofun)]
      rfl

/-- Behind its quote, a quoted text is read back if each of its runes can be, and
otherwise it is no string. -/
theorem takeLine_quoteRunes {runes : List Text}
    (hrunes : ∀ rune ∈ runes, QuotedRune rune (isSpellable rune) (Text.quoteRune rune))
    (rest : Text) {n : Nat}
    (hn : ((runes.map Text.quoteRune).flatten ++ byte '"' :: rest).length ≤ n) :
    double.takeLine n ((runes.map Text.quoteRune).flatten ++ byte '"' :: rest) =
      if runes.all isSpellable then some (runes.flatten, .closed, rest) else none := by
  induction runes generalizing n with
  | nil =>
      obtain ⟨m, rfl⟩ := Nat.exists_eq_add_of_le' (Nat.le_trans (Nat.succ_pos _) hn)
      exact takeLine_closed
  | cons rune runes ih =>
      obtain ⟨hrune, hrunes⟩ := List.forall_mem_cons.mp hrunes
      rw [List.map_cons, List.flatten_cons, List.append_assoc] at hn ⊢
      obtain ⟨m, hm, htake⟩ := hrune.takeLine hn
      rw [htake, ih hrunes hm, List.all_cons]
      cases isSpellable rune with
      | false => rfl
      | true =>
          cases runes.all isSpellable with
          | false => rfl
          | true => rfl

/-- No quoted rune begins as the string ends. -/
theorem QuotedRune.head_ne {rune written : Text} {spellable : Bool}
    (h : QuotedRune rune spellable written) (rest : Text) :
    (written ++ rest).head? ≠ some (byte '"') := by
  cases h with
  | plain hne hplain =>
      obtain ⟨b, bytes, rfl⟩ := List.exists_cons_of_ne_nil hne
      intro hhead
      rw [List.cons_append, List.head?_cons, Option.some.injEq] at hhead
      exact hplain b List.mem_cons_self (hhead ▸ List.mem_cons_self)
  | escape hread => exact nofun
  | value => exact nofun

end Quote

end Config

end TapeDuel
