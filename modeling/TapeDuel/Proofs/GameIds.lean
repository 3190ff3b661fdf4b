import Mathlib
import TapeDuel.Ledger.GameId
import TapeDuel.Proofs.Numerals

/-!
# Identifiers that are written and read

The identifier that was printed for a game is the way to ask for the game. It has 128
bits, and each of the 32 hexadecimal digits that it is written with stands for four of
them, so nothing is lost, and the marks between the groups are where they are looked
for (`GameId.read_write`).
-/

namespace TapeDuel

namespace GameId

/-- The last digits of a number spell the number, as far as they go. -/
theorem ofDigits_hexadecimal (k n : Nat) :
    ofDigits (Text.hexadecimal k n) = .ok ⟨n % 16 ^ k⟩ := by
  obtain ⟨values, hdigits, hvalue⟩ := Text.mapM_digitValue?_hexadecimal k n
  rw [ofDigits, hdigits, ← hvalue]

/-- Groups with marks between them are taken together again. -/
theorem ofGroups_intercalate {digits : Text} (hlength : digits.length = 32) :
    (Text.intercalate "-" (cut groups digits)).length = 36 ∧
      ofGroups (Text.intercalate "-" (cut groups digits)) = ofDigits digits := by
  have hmark : Text.ofString "-" = [Text.byte '-'] := by
    decide +kernel
  rw [hmark]
  -- With the digits told one by one, both sides can be computed.
  iterate 32 (rcases digits with _ | ⟨_, digits⟩; · cases hlength)
  obtain rfl : digits = [] := List.eq_nil_of_length_eq_zero (by simpa using hlength)
  exact ⟨rfl, rfl⟩

/-- An identifier is read back from what is written for it. -/
theorem read_write {id : GameId} (hbits : id.value < 2 ^ 128) :
    read id.write = .ok id := by
  obtain ⟨hlength, hgroups⟩ := ofGroups_intercalate (Text.length_hexadecimal 32 id.value)
  have hvalue : id.value % 16 ^ 32 = id.value :=
    Nat.mod_eq_of_lt (Nat.lt_of_lt_of_le hbits (by decide))
  rw [write, read, if_pos hlength, hgroups, ofDigits_hexadecimal, hvalue]

theorem read_of_eq_write {id : GameId} (hbits : id.value < 2 ^ 128) {t : Text}
    (hwritten : t = id.write) : read t = .ok id := by
  rw [hwritten, read_write hbits]

end GameId

end TapeDuel
