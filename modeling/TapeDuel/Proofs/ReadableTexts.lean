import Mathlib
import TapeDuel.Proofs.SettingLines

/-!
# Texts that may stand in a file

A file is refused before its first token is looked for if it holds a stray byte, a
zero or a second byte order mark. A text without them is `Readable`, and so are
several of them strung together, for their runes are cut where they were. Names,
numerals and quoted texts are readable, whatever the quoted text is: what may not
stand there is written by an escape, also where the escape is not read. So described
settings never fail at this door (`Token.ofText_describe`).
-/

namespace TapeDuel

namespace Config.Token

open Text (byte IsCharacter)

/-- Whether a byte is an ASCII character that may stand in a file. -/
def isPlain (b : UInt8) : Bool :=
  b ≠ 0 && b < 0x80

theorem isPlain_iff {b : UInt8} : isPlain b = true ↔ b ≠ 0 ∧ b < 0x80 := by
  rw [isPlain, Bool.and_eq_true, decide_eq_true_eq, decide_eq_true_eq]

/-- A well-formed rune that may stand in a file. -/
structure ReadableRune (rune : Text) : Prop where
  character : IsCharacter rune
  ne_zero : rune.codePoint? ≠ some 0
  ne_mark : rune.codePoint? ≠ some 0xFEFF

/-- A text of runes that may stand in a file. -/
def Readable (t : Text) : Prop :=
  ∃ pieces : List Text, pieces.flatten = t ∧ ∀ piece ∈ pieces, ReadableRune piece

namespace Readable

variable {t u : Text}

theorem nil : Readable [] :=
  ⟨[], rfl, nofun⟩

theorem append (ht : Readable t) (hu : Readable u) : Readable (t ++ u) := by
  obtain ⟨pieces, rfl, hpieces⟩ := ht
  obtain ⟨pieces', rfl, hpieces'⟩ := hu
  exact ⟨pieces ++ pieces', List.flatten_append, List.forall_mem_append.mpr
    ⟨hpieces, hpieces'⟩⟩

theorem flatten {ts : List Text} (h : ∀ t ∈ ts, Readable t) : Readable ts.flatten := by
  induction ts with
  | nil => exact nil
  | cons t ts ih =>
      obtain ⟨ht, hts⟩ := List.forall_mem_cons.mp h
      exact ht.append (ih hts)

theorem rune {rune : Text} (h : ReadableRune rune) : Readable rune :=
  ⟨[rune], List.flatten_singleton, List.forall_mem_singleton.mpr h⟩

theorem ascii (h : t.all isPlain = true) : Readable t := by
  have hpieces : (t.map fun b => [b]).flatten = t := by
    rw [← List.flatMap_def, List.flatMap_singleton']
  rw [← hpieces]
  refine flatten (List.forall_mem_map.mpr fun b hb => rune ?_)
  obtain ⟨hne, hlow⟩ := isPlain_iff.mp (List.all_eq_true.mp h b hb)
  have hcode : Text.codePoint? [b] = some b.toNat := if_pos hlow
  refine ⟨.one hlow, ?_, ?_⟩
  · rw [hcode]
    exact fun hzero => hne (UInt8.toNat_inj.mp (Option.some.inj hzero))
  · rw [hcode]
    have hsmall := b.toNat_lt
    exact fun hmark => by
      have := Option.some.inj hmark
      omega

theorem isReadable (h : Readable t) : isReadable t = true := by
  obtain ⟨pieces, rfl, hpieces⟩ := h
  have hrunes : Text.runes pieces.flatten = pieces := by
    have := IsCharacter.runes_flatten_append (fun p hp => (hpieces p hp).character) []
    rwa [List.append_nil, show Text.runes [] = [] from rfl, List.append_nil] at this
  rw [Token.isReadable, hrunes, List.all_eq_true]
  intro piece hmem
  obtain ⟨hcharacter, hzero, hmark⟩ := hpieces piece hmem
  obtain ⟨code, hcode, -, -⟩ := hcharacter.exists_codePoint
  rw [hcode] at hzero hmark ⊢
  simpa using ⟨fun h => hzero (congrArg some h), fun h => hmark (congrArg some h)⟩

/-- No mark is dropped from a readable text. -/
theorem dropMark (h : Readable t) : dropMark t = t := by
  rw [Token.dropMark, if_neg]
  intro hprefix
  obtain ⟨rest, rfl⟩ := List.isPrefixOf_iff_prefix.mp hprefix
  have hcharacter : IsCharacter [0xEF, 0xBB, 0xBF] :=
    .three (by decide) (by decide) (by decide)
  have hall := h.isReadable
  rw [Token.isReadable, hcharacter.runes_append, List.all_cons, Bool.and_eq_true] at hall
  exact absurd hall.1 (by decide)

end Readable

/-! ## What is written into a file -/

section Written

variable {t rune : Text}

theorem ReadableRune.of_code {code : Nat} (hmem : rune ∈ t.runes)
    (hcode : rune.codePoint? = some code) (hzero : code ≠ 0) (hmark : code ≠ 0xFEFF) :
    ReadableRune rune where
  character := Text.isCharacter_of_mem hmem (by rw [hcode]; rfl)
  ne_zero h := hzero (Option.some.inj (hcode.symm.trans h))
  ne_mark h := hmark (Option.some.inj (hcode.symm.trans h))

theorem isPlain_hexDigit : ∀ d < 16, isPlain (Text.hexDigit d) = true := by
  decide

theorem readable_hexadecimal (k n : Nat) : Readable (Text.hexadecimal k n) := by
  induction k generalizing n with
  | zero => exact .nil
  | succ k ih =>
      refine (ih _).append (.ascii ?_)
      rw [List.all_cons, isPlain_hexDigit _ (Nat.mod_lt n (by decide))]
      rfl

/-- A rune is quoted by what may stand in a file, even if it may not. -/
theorem readable_quoteRune (hmem : rune ∈ t.runes) : Readable (Text.quoteRune rune) := by
  have hx : Readable (Text.ofString "\\x") := Quote.valueEscape_eq ▸ .ascii rfl
  have hu : Readable (Text.ofString "\\u") := Quote.shortEscape_eq ▸ .ascii rfl
  have hU : Readable (Text.ofString "\\U") := Quote.longEscape_eq ▸ .ascii rfl
  cases hcode : rune.codePoint? with
  | none =>
      rw [Text.quoteRune, hcode]
      refine hx.append (.flatten (List.forall_mem_map.mpr fun b _ =>
        readable_hexadecimal _ _))
  | some code =>
      simp only [Text.quoteRune, hcode]
      split
      · next hslashed =>
          rw [Bool.or_eq_true, decide_eq_true_eq, decide_eq_true_eq] at hslashed
          have hself : Readable rune := .rune (.of_code hmem hcode (by omega) (by omega))
          exact Readable.append (t := [byte '\\']) (.ascii rfl) hself
      · split
        · next hprintable =>
            obtain ⟨hlow, -, hmark⟩ := bounds_of_isPrintable hprintable
            exact .rune (.of_code hmem hcode (by omega) hmark)
        · split
          · next letter hletter =>
              unfold Text.controlLetter? at hletter
              refine .ascii ?_
              split at hletter <;> cases hletter <;> rfl
          · split
            · exact hx.append (readable_hexadecimal _ _)
            · split
              · exact hu.append (readable_hexadecimal _ _)
              · exact hU.append (readable_hexadecimal _ _)

theorem readable_quote (t : Text) : Readable t.quote := by
  have hquote : Readable [byte '"'] := .ascii rfl
  have hrunes : Readable (t.runes.map Text.quoteRune).flatten :=
    .flatten (List.forall_mem_map.mpr fun _ => readable_quoteRune)
  exact (hquote.append hrunes).append hquote

/-- A byte between two ASCII bytes is one. -/
theorem isPlain_of_le {b low high : UInt8} (hlow : low ≤ b) (hhigh : b ≤ high)
    (hne : 0 < low) (hascii : high < 0x80) : isPlain b = true := by
  refine isPlain_iff.mpr ⟨?_, UInt8.lt_of_le_of_lt hhigh hascii⟩
  rintro rfl
  exact UInt8.lt_irrefl _ (UInt8.lt_of_lt_of_le hne hlow)

theorem isPlain_of_isDigit {b : UInt8} (h : Decimal.isDigit b = true) :
    isPlain b = true := by
  rw [Decimal.isDigit, Bool.and_eq_true, decide_eq_true_eq, decide_eq_true_eq] at h
  exact isPlain_of_le h.1 h.2 (by decide) (by decide)

theorem isPlain_of_inName {b : UInt8} (h : inName [b] = true) : isPlain b = true := by
  simp only [inName, startsName, Bool.or_eq_true, Bool.and_eq_true, decide_eq_true_eq]
    at h
  rcases h with (((h | h) | h) | rfl) | rfl
  · exact isPlain_of_le h.1 h.2 (by decide) (by decide)
  · exact isPlain_of_le h.1 h.2 (by decide) (by decide)
  · exact isPlain_of_isDigit h
  · decide
  · decide

theorem readable_write (s : Setting) : Readable s.write := by
  have hdigits : ∀ n, Readable (Decimal.write n) := fun n =>
    .ascii (List.all_eq_true.mpr fun _ hb => isPlain_of_isDigit
      (Decimal.isDigit_of_mem_write hb))
  cases s with
  | int i =>
      rw [Setting.write, Decimal.writeInt]
      split
      · exact Readable.append (t := [byte '-']) (.ascii rfl) (hdigits _)
      · exact hdigits _
  | text t => exact readable_quote t

/-- What may not stand in a file is no letter and no digit. -/
theorem not_letter_or_digit : isLetterCode 0 = false ∧ isLetterCode 0xFEFF = false ∧
    isDigitCode 0 = false ∧ isDigitCode 0xFEFF = false := by
  decide +kernel

/-- Letters and digits may stand in a file. -/
theorem readable_of_inName (hmem : rune ∈ t.runes) (h : inName rune = true) :
    Readable rune := by
  have hnone := not_letter_or_digit
  cases Text.isRune_of_mem hmem with
  | single b => exact .ascii (by rw [List.all_cons, isPlain_of_inName h]; rfl)
  | @wide b tail hwide =>
      cases tail with
      | nil => exact .ascii (by rw [List.all_cons, isPlain_of_inName h]; rfl)
      | cons c tail =>
          simp only [inName, startsName, Bool.or_eq_true, Option.any_eq_true] at h
          rcases h with ⟨code, hcode, hin⟩ | ⟨code, hcode, hin⟩
          · refine .rune (.of_code hmem hcode ?_ ?_)
            · rintro rfl
              exact absurd hin (by simp [hnone])
            · rintro rfl
              exact absurd hin (by simp [hnone])
          · refine .rune (.of_code hmem hcode ?_ ?_)
            · rintro rfl
              exact absurd hin (by simp [hnone])
            · rintro rfl
              exact absurd hin (by simp [hnone])

theorem readable_name (h : isFieldName t = true) : Readable t := by
  rw [← Text.flatten_runes t]
  refine .flatten fun rune hmem => readable_of_inName hmem ?_
  simp only [isFieldName, Bool.and_eq_true] at h
  exact List.all_eq_true.mp h.1.2 rune hmem

theorem readable_describe {settings : List (Text × Setting)}
    (hnames : ∀ s ∈ settings, isFieldName s.1 = true) :
    Readable (describe settings) := by
  refine .flatten (List.forall_mem_map.mpr fun s hs => ?_)
  have hcolon : Readable (Text.ofString ": ") := colon_eq ▸ .ascii rfl
  have hline : Readable [byte '\n'] := .ascii rfl
  exact (((readable_name (hnames s hs)).append hcolon).append
    (readable_write s.2)).append hline

end Written

/-- The tokens of described settings, if all of them can be read. -/
theorem ofText_describe {settings : List (Text × Setting)}
    (hnames : ∀ s ∈ settings, isFieldName s.1 = true) :
    ofText (describe settings) =
      if settings.all (·.2.isSpellable) then some (settings.flatMap lineTokens)
      else none := by
  have hreadable := readable_describe hnames
  rw [ofText, hreadable.dropMark]
  simp only [hreadable.isReadable, if_true]
  exact scan_describe hnames (Nat.le_refl _)

/-- A name by itself. -/
theorem ofText_name {name : Text} (h : isFieldName name = true) :
    ofText name = some [.name name, .lineEnd] := by
  have hreadable := readable_name h
  obtain ⟨b, tail, hname, -⟩ := exists_opensName h
  have hscan : scan (tail.length + 1) [] false (name ++ []) =
      (scan tail.length [] true []).map (.name name :: ·) := scan_name h rfl
  rw [List.append_nil] at hscan
  rw [ofText, hreadable.dropMark]
  simp only [hreadable.isReadable, if_true]
  rw [show name.length = tail.length + 1 by rw [hname, List.length_cons], hscan]
  unfold scan
  rfl

end Config.Token

end TapeDuel
