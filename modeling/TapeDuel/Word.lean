/-!
# Machine words

Positions and instruction pointers are held in 64-bit registers. In every run of a
compiled program they stay far from the ends of that range; a hand-made program can
drive them there, and then they wrap.
-/

namespace TapeDuel

/-- Whether a number lies in the range of a 64-bit signed register. -/
def fits64 (x : Int) : Bool :=
  decide (-9223372036854775808 ≤ x) && decide (x < 9223372036854775808)

/-- What a 64-bit signed register holds after `x` is put into it. -/
def wrap64 (x : Int) : Int :=
  (Int64.ofInt x).toInt

theorem wrap64_eq_bmod (x : Int) : wrap64 x = x.bmod 18446744073709551616 := by
  simp [wrap64, Int64.toInt_ofInt]

/-- Inside its range a register holds exactly what it was given. -/
theorem wrap64_eq_self {x : Int} (hlo : -9223372036854775808 ≤ x)
    (hhi : x < 9223372036854775808) : wrap64 x = x := by
  rw [wrap64_eq_bmod]
  exact Int.bmod_eq_of_le (by omega) (by omega)

end TapeDuel
