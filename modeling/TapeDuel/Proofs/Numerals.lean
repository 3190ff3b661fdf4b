import Mathlib
import TapeDuel.Config.Numeral
import TapeDuel.Text.Quoted

/-!
# Numerals that are written and read

A hexadecimal numeral of `k` digits is read as the number modulo `16 ^ k`
(`Text.mapM_digitValue?_hexadecimal`), whoever reads it. A decimal numeral is a run of
digits that starts with zero for zero alone, so a configuration file takes all of it
for one whole number, as long as the line ends behind it
(`Config.Numeral.take_write`).
-/

namespace TapeDuel

/-! ## Hexadecimal numerals -/

theorem Text.length_hexadecimal (k n : Nat) : (hexadecimal k n).length = k := by
  induction k generalizing n with
  | zero => rfl
  | succ k ih => rw [hexadecimal, List.length_append, ih, List.length_singleton]

theorem Number.digitValue?_hexDigit :
    ∀ d < 16, digitValue? 16 (Text.hexDigit d) = some d := by
  decide

/-- The last digits of a number spell the number, as far as they go. -/
theorem Text.mapM_digitValue?_hexadecimal (k n : Nat) : ∃ values : List Nat,
    (hexadecimal k n).mapM (Number.digitValue? 16) = some values ∧
      values.foldl (fun n d => 16 * n + d) 0 = n % 16 ^ k := by
  induction k generalizing n with
  | zero => exact ⟨[], rfl, (Nat.mod_one n).symm⟩
  | succ k ih =>
      obtain ⟨values, hdigits, hvalue⟩ := ih (n / 16)
      have hlast := Number.digitValue?_hexDigit (n % 16) (Nat.mod_lt n (by decide))
      refine ⟨values ++ [n % 16], ?_, ?_⟩
      · rw [hexadecimal, List.mapM_append, hdigits]
        simp [hlast]
      · rw [List.foldl_append, hvalue, Nat.pow_succ', Nat.mod_mul, Nat.add_comm]
        rfl

/-! ## Decimal numerals -/

namespace Decimal

theorem isDigit_digit {d : Nat} (h : d < 10) : isDigit (digit d) = true := by
  have hd : (digit d).toNat = 48 + d := by
    rw [digit, UInt8.toNat_ofNat']
    omega
  rw [isDigit, Bool.and_eq_true, decide_eq_true_eq, decide_eq_true_eq,
    UInt8.le_iff_toNat_le, UInt8.le_iff_toNat_le, hd]
  exact ⟨Nat.le_add_right 48 d, Nat.add_le_add_left (Nat.le_of_lt_succ h) 48⟩

theorem isDigit_of_mem_write {n : Nat} {b : UInt8} (h : b ∈ write n) :
    isDigit b = true := by
  induction n using Nat.strongRecOn with
  | _ n ih =>
      rw [write] at h
      split at h
      · next hsmall =>
          rw [List.mem_singleton.mp h]
          exact isDigit_digit hsmall
      · rcases List.mem_append.mp h with h | h
        · exact ih _ (by omega) h
        · rw [List.mem_singleton.mp h]
          exact isDigit_digit (Nat.mod_lt n (by decide))

theorem write_ne_nil (n : Nat) : write n ≠ [] := by
  rw [write]
  split
  · exact List.cons_ne_nil _ _
  · exact List.append_ne_nil_of_right_ne_nil _ (List.cons_ne_nil _ _)

theorem writeInt_natCast (n : Nat) : writeInt (n : Int) = write n := by
  rw [writeInt, if_neg (Int.not_lt.mpr (Int.natCast_nonneg n))]
  rfl

theorem digit_sub {b : UInt8} (h : isDigit b = true) : digit (b.toNat - 48) = b := by
  rw [isDigit, Bool.and_eq_true, decide_eq_true_eq, decide_eq_true_eq,
    UInt8.le_iff_toNat_le, UInt8.le_iff_toNat_le] at h
  have hlow : 48 ≤ b.toNat := h.1
  rw [digit, Nat.add_sub_cancel' hlow, UInt8.ofNat_toNat]

theorem sub_lt_of_isDigit {b : UInt8} (h : isDigit b = true) : b.toNat - 48 < 10 := by
  rw [isDigit, Bool.and_eq_true, decide_eq_true_eq, decide_eq_true_eq,
    UInt8.le_iff_toNat_le, UInt8.le_iff_toNat_le] at h
  have hhigh : b.toNat ≤ 57 := h.2
  omega

theorem write_zero : write 0 = [Text.byte '0'] := by
  rw [write]
  rfl

theorem ne_of_isDigit {b c : UInt8} (hb : isDigit b = true) (hc : isDigit c = false) :
    b ≠ c := by
  rintro rfl
  rw [hb] at hc
  cases hc

/-- Only zero is written with a zero in front. -/
theorem eq_zero_of_head_write {n : Nat} (h : (write n).head? = some (Text.byte '0')) :
    n = 0 := by
  induction n using Nat.strongRecOn with
  | _ n ih =>
      rw [write] at h
      split at h
      · next hsmall =>
          have hdigit : digit n = digit 0 := Option.some.inj h
          have hvalue := congrArg (fun b => b.toNat - 48) hdigit
          simpa only [toNat_digit hsmall, toNat_digit (Nat.zero_lt_succ 9)] using hvalue
      · next hlarge =>
          rw [List.head?_append_of_ne_nil _ (write_ne_nil _)] at h
          have := ih (n / 10) (by omega) h
          omega

end Decimal

theorem Number.digitValue?_of_isDigit {b : UInt8} (h : Decimal.isDigit b = true) :
    digitValue? 10 b = some (b.toNat - 48) := by
  rw [digitValue?, h, Bool.true_and,
    if_pos (decide_eq_true (Decimal.sub_lt_of_isDigit h))]

/-! ## Whole numbers in configuration files -/

namespace Config.Numeral

section Run

variable {run : Text}

theorem filterMap_digitValue? (hdigits : ∀ b ∈ run, Decimal.isDigit b = true) :
    run.filterMap (Number.digitValue? 10) = run.map fun b => b.toNat - 48 := by
  rw [← List.filterMap_eq_map]
  exact List.filterMap_congr fun b hb => Number.digitValue?_of_isDigit (hdigits b hb)

theorem value_digits (hdigits : ∀ b ∈ run, Decimal.isDigit b = true) :
    value 10 (run.filterMap (Number.digitValue? 10)) = Decimal.read run := by
  rw [filterMap_digitValue? hdigits, value, List.foldl_map, Decimal.read]

theorem wellSeparated_digits (hdigits : ∀ b ∈ run, Decimal.isDigit b = true) :
    wellSeparated run = true := by
  have hplain : ∀ b ∈ run, b ≠ Text.byte '_' := fun b hb =>
    Decimal.ne_of_isDigit (hdigits b hb) (by decide)
  rw [wellSeparated, Bool.and_eq_true, decide_eq_true_eq, List.all_eq_true]
  constructor
  · intro hlast
    exact hplain _ (List.mem_of_getLast? hlast) rfl
  · rintro ⟨a, b⟩ hpair
    simp [hplain a (List.of_mem_zip hpair).1]

theorem digits?_digits (hne : run ≠ []) (hdigits : ∀ b ∈ run, Decimal.isDigit b = true) :
    digits? 10 run = some (run.filterMap (Number.digitValue? 10)) := by
  have hsome : (run.filterMap (Number.digitValue? 10)).isEmpty = false := by
    rw [filterMap_digitValue? hdigits, List.isEmpty_map]
    exact List.isEmpty_eq_false_iff.mpr hne
  rw [digits?, hsome, wellSeparated_digits hdigits]
  rfl

theorem takeRun_digits (hdigits : ∀ b ∈ run, Decimal.isDigit b = true) {b : UInt8}
    (hb : inDigits 10 b = false) (rest : Text) :
    takeRun 10 (run ++ b :: rest) = (run, b :: rest) := by
  have hrun : ∀ c ∈ run, inDigits 10 c = true := fun c hc => by
    rw [inDigits, Number.digitValue?_of_isDigit (hdigits c hc), Option.isSome_some,
      Bool.or_true]
  rw [takeRun, List.takeWhile_append_of_pos hrun, List.dropWhile_append_of_pos hrun,
    List.takeWhile_cons_of_neg (by simp [hb]), List.dropWhile_cons_of_neg (by simp [hb]),
    List.append_nil]

end Run

/-- A decimal numeral at the end of a line is read as the number. -/
theorem takeDecimal_write (n : Nat) (rest : Text) :
    takeDecimal (Decimal.write n ++ Text.byte '\n' :: rest) =
      some (.int n, Text.byte '\n' :: rest) := by
  have hdigits : ∀ b ∈ Decimal.write n, Decimal.isDigit b = true := fun _ =>
    Decimal.isDigit_of_mem_write
  have hpoint : Text.byte '\n' ≠ Text.byte '.' := by decide
  have hexp :
      Text.byte '\n' ≠ Text.byte 'e' ∧ Text.byte '\n' ≠ Text.byte 'E' := by decide
  rw [takeDecimal, takeRun_digits hdigits (by decide)]
  by_cases hzero : (Decimal.write n).head? = some (Text.byte '0')
  · obtain rfl := Decimal.eq_zero_of_head_write hzero
    simp [hpoint, hexp, Decimal.write_zero]
  · have hpower : powerOf? (Text.byte '\n') = none := by decide
    simp [hpoint, hexp, hzero, digits?_digits (Decimal.write_ne_nil n) hdigits,
      finish, hpower, value_digits hdigits, Decimal.read_write]

theorem take_write (n : Nat) (rest : Text) :
    take (Decimal.write n ++ Text.byte '\n' :: rest) =
      some (.int n, Text.byte '\n' :: rest) := by
  rw [← takeDecimal_write]
  cases hwrite : Decimal.write n with
  | nil => exact absurd hwrite (Decimal.write_ne_nil n)
  | cons z digits =>
      by_cases hz : z = Text.byte '0'
      · have hzero : n = 0 := Decimal.eq_zero_of_head_write (by rw [hwrite, hz]; rfl)
        rw [hzero, Decimal.write_zero] at hwrite
        obtain ⟨rfl, rfl⟩ := List.cons.inj hwrite
        rfl
      · cases digits <;> simp [take, hz]

end Config.Numeral

end TapeDuel
