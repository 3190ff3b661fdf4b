import TapeDuel.App.Settings
import TapeDuel.Proofs.RoundSequences

/-!
# The rounds of a range of tape lengths

A range goes through its lengths in ascending order and plays each of them twice. Its
lengths are counted in a register, so what it yields is compared with the lengths as
integers (`Rounds.toInt_lengths`), which cannot go round.

As far as there are lengths left, every look into a range sees the next one, whatever
the last length is. Only the step behind the last length is different: below the
largest number it is above the last length, and the range ends; at the largest number
there is no such step, and the range goes on for ever. So a range is complete, and it
ends exactly if its last length is not the largest number
(`Rounds.range_ends_below_maxValue`).
-/

namespace TapeDuel

namespace Rounds

/-- The tape lengths from `min` to `max`, in ascending order. -/
def lengths (min max : Int64) : List Int64 :=
  (List.range (max.toInt - min.toInt + 1).toNat).map fun (i : Nat) =>
    .ofInt (min.toInt + i)

/-- The rounds of one tape length. -/
def bothPolarities (maxSteps length : Int64) : List RoundParams :=
  [⟨length, false, maxSteps⟩, ⟨length, true, maxSteps⟩]

/-- The rounds of all tape lengths from `min` to `max`. -/
def everyLength (min max maxSteps : Int64) : List RoundParams :=
  (lengths min max).flatMap (bothPolarities maxSteps)

/-- The lengths of a range are the integers between its ends. -/
theorem toInt_lengths (min max : Int64) :
    (lengths min max).map Int64.toInt =
      (List.range (max.toInt - min.toInt + 1).toNat).map fun (i : Nat) =>
      min.toInt + i := by
  rw [lengths, List.map_map]
  refine List.map_congr_left fun i hi => ?_
  have hlow := Int64.le_toInt min
  have hhigh := Int64.toInt_le max
  rw [Int64.toInt_maxValue] at hhigh
  have hlt := List.mem_range.mp hi
  exact Int64.toInt_ofInt_of_le (by omega) (by omega)

theorem length_everyLength (min max maxSteps : Int64) :
    (everyLength min max maxSteps).length = 2 * (max.toInt - min.toInt + 1).toNat := by
  have htwo : ((lengths min max).map fun length =>
      (bothPolarities maxSteps length).length) = (lengths min max).map fun _ => 2 := rfl
  rw [everyLength, List.length_flatMap, htwo, List.map_const', List.sum_replicate_nat,
    lengths, List.length_map, List.length_range, Nat.mul_comm]

section Range

variable {length last maxSteps : Int64}

theorem everyLength_of_lt (h : last < length) :
    everyLength length last maxSteps = [] := by
  rw [Int64.lt_iff_toInt_lt] at h
  have hnone : (last.toInt - length.toInt + 1).toNat = 0 := by omega
  rw [everyLength, lengths, hnone]
  rfl

/-- Below the largest number a length has a successor, and the range goes on with it. -/
theorem everyLength_of_le (hle : length ≤ last) (hmax : length < Int64.maxValue) :
    everyLength length last maxSteps =
      bothPolarities maxSteps length ++ everyLength (length + 1) last maxSteps := by
  have hsucc := toInt_succ (Int64.le_refl length) hmax
  rw [Int64.le_iff_toInt_le] at hle
  obtain ⟨k, hk⟩ : ∃ k, (last.toInt - length.toInt + 1).toNat = k + 1 :=
    ⟨(last.toInt - length.toInt).toNat, by omega⟩
  have hk' : (last.toInt - (length + 1).toInt + 1).toNat = k := by omega
  have hlengths : lengths length last = length :: lengths (length + 1) last := by
    rw [lengths, lengths, hk, hk', List.range_succ_eq_map, List.map_cons,
      List.map_map, hsucc]
    refine congrArg₂ List.cons (by simp) (List.map_congr_left fun i _ => ?_)
    exact congrArg Int64.ofInt (by simp only [Nat.succ_eq_add_one]; omega)
  rw [everyLength, hlengths, List.flatMap_cons, everyLength]

theorem take_range_of_lt (h : last < length) (n : Nat) :
    (range ⟨length, false, maxSteps⟩ last).take n = [] := by
  cases n with
  | zero => rfl
  | succ n => rw [take, next?, if_pos (by simpa using h)]

theorem take_range_of_le (h : length ≤ last) (n : Nat) :
    (range ⟨length, false, maxSteps⟩ last).take (n + 2) =
      bothPolarities maxSteps length ++
        (range ⟨length + 1, false, maxSteps⟩ last).take n := by
  have hgoes : ¬ (!false && decide (last < length)) = true := by
    simpa [Int64.not_lt] using h
  rw [take, next?, if_neg hgoes]
  rfl

/-- What a range yields, as long as lengths are left; below the largest number also
behind them. The induction is on the number of lengths that are left. -/
theorem take_range {k n : Nat} (hk : (last.toInt - length.toInt + 1).toNat = k)
    (hn : last < Int64.maxValue ∨ n ≤ 2 * k) :
    (range ⟨length, false, maxSteps⟩ last).take n =
      (everyLength length last maxSteps).take n := by
  induction k generalizing length n with
  | zero =>
      have hlt : last < length := Int64.lt_iff_toInt_lt.mpr (by omega)
      rw [take_range_of_lt hlt, everyLength_of_lt hlt, List.take_nil]
  | succ k ih =>
      have hle : length ≤ last := Int64.le_iff_toInt_le.mpr (by omega)
      by_cases hmax : length < Int64.maxValue
      · have hsucc := toInt_succ (Int64.le_refl length) hmax
        have hfirst : ∀ m, m ≤ n - 2 →
            (range ⟨length + 1, false, maxSteps⟩ last).take m =
              (everyLength (length + 1) last maxSteps).take m :=
          fun m hm => ih (by omega) (hn.imp_right fun _ => by omega)
        have hmore : (range ⟨length, false, maxSteps⟩ last).take (n - 2 + 2) =
            (everyLength length last maxSteps).take (n - 2 + 2) := by
          rw [take_range_of_le hle, everyLength_of_le hle hmax, hfirst _ (Nat.le_refl _)]
          rfl
        rw [← take_take (show n ≤ n - 2 + 2 by omega), hmore, List.take_take,
          Nat.min_eq_left (by omega)]
      · -- The last length is the largest number, so no more than its two rounds are
        -- taken.
        have hlength : length = Int64.maxValue :=
          Int64.le_antisymm (Int64.le_maxValue _) (Int64.not_lt.mp hmax)
        have hlast : last = Int64.maxValue :=
          Int64.le_antisymm (Int64.le_maxValue _) (hlength ▸ hle)
        subst hlength hlast
        have htwo : n ≤ 2 := by
          rcases hn with hlt | hn
          · exact absurd hlt (Int64.lt_irrefl)
          · omega
        rw [← take_take htwo, take_range_of_le (Int64.le_refl _) 0]
        rfl

end Range

/-- A range yields the rounds of all its tape lengths, the lengths in ascending order and
each first with normal and then with inverted polarity; whoever stops after some of them
has received exactly the first. It ends behind them if and only if its last length is not
the largest number: up to that number it never ends. -/
theorem range_ends_below_maxValue (min max maxSteps : Int64) (h : min ≤ max) :
    (lengths min max).map Int64.toInt =
      ((List.range (max.toInt - min.toInt + 1).toNat).map fun (i : Nat) =>
        min.toInt + i) ∧
    ((everyLength min max maxSteps).length : Int) = 2 * (max.toInt - min.toInt + 1) ∧
    (∀ n ≤ (everyLength min max maxSteps).length,
      (between min max maxSteps).take n = (everyLength min max maxSteps).take n) ∧
    ((∀ n, (between min max maxSteps).take n = (everyLength min max maxSteps).take n) ↔
      max < Int64.maxValue) ∧
    (max = Int64.maxValue → ∀ n, ((between min max maxSteps).take n).length = n) := by
  have hlength := length_everyLength min max maxSteps
  have hle := Int64.le_iff_toInt_le.mp h
  refine
    ⟨toInt_lengths min max, by omega, fun n hn => ?_, ⟨fun hall => ?_, fun hmax n => ?_⟩,
    fun hmax n => length_take_range hmax n _⟩
  · exact take_range rfl (.inr (by omega))
  · refine Decidable.byContradiction fun hmax => ?_
    have hlast : max = Int64.maxValue :=
      Int64.le_antisymm (Int64.le_maxValue _) (Int64.not_lt.mp hmax)
    have hlong := congrArg List.length (hall ((everyLength min max maxSteps).length + 1))
    rw [between, length_take_range hlast, List.length_take] at hlong
    omega
  · exact take_range rfl (.inl hmax)

/-- The theorem at the two largest lengths: the first four rounds are theirs, and
there is no last one. -/
theorem range_ends_below_maxValue_largest :
    Int64.maxValue - 1 ≤ Int64.maxValue ∧
    (between (Int64.maxValue - 1) Int64.maxValue 7).take 4 =
      bothPolarities 7 (Int64.maxValue - 1) ++ bothPolarities 7 Int64.maxValue ∧
    ∀ n, ((between (Int64.maxValue - 1) Int64.maxValue 7).take n).length = n := by
  obtain ⟨-, -, hfirst, -, hendless⟩ :=
    range_ends_below_maxValue (Int64.maxValue - 1) Int64.maxValue 7 (by decide)
  exact ⟨by decide, (hfirst 4 (by decide)).trans (by decide), hendless rfl⟩

/-- The command line can ask for the range of the largest number alone. Behind its two
rounds this range goes on, with the smallest number. -/
theorem largest_range_goes_round :
    App.tapeRange { minTape := 2 ^ 63 - 1, maxTape := 2 ^ 63 - 1 } Config.Loader.none =
      .ok (2 ^ 63 - 1, 2 ^ 63 - 1) ∧
    (everyLength Int64.maxValue Int64.maxValue 100).length = 2 ∧
    (between Int64.maxValue Int64.maxValue 100).take 3 =
      everyLength Int64.maxValue Int64.maxValue 100 ++ [⟨Int64.minValue, false, 100⟩] :=
  ⟨by cbv, by decide, by decide⟩

end Rounds

end TapeDuel
