import Mathlib
import TapeDuel.Match.Rounds

/-!
# Sequences of rounds that end

A sequence of rounds is either a list or a range of tape lengths, and a range that goes
up to the largest number never ends. The others are what they yield (`Rounds.Yields`):
the bound of a sequence is large enough for all of its rounds, so the list that is read
up to the bound is the whole sequence (`Rounds.Yields.toList_eq`), and the search for a
flaw looks at each of them (`Rounds.Yields.flaw?_eq`).

Of a range the bound counts twice the lengths that are left. Each round takes one from
that, as long as a length has a successor.
-/

namespace TapeDuel

namespace Rounds

/-- Looking further does not change what comes first. -/
theorem take_take {m n : Nat} (hle : m ≤ n) (rounds : Rounds) :
    (rounds.take n).take m = rounds.take m := by
  induction m generalizing n rounds with
  | zero => rfl
  | succ m ih =>
      obtain ⟨n, rfl⟩ : ∃ n', n = n' + 1 := ⟨n - 1, by omega⟩
      rw [take, take]
      cases rounds.next? with
      | none => rfl
      | some p => exact congrArg (p.1 :: ·) (ih (by omega) p.2)

theorem flawWithin?_eq (rounds : Rounds) (n : Nat) :
    rounds.flawWithin? n = (rounds.take n).findSome? RoundParams.flaw? := by
  induction n generalizing rounds with
  | zero => rfl
  | succ n ih =>
      rw [flawWithin?, take]
      cases rounds.next? with
      | none => rfl
      | some p =>
          obtain ⟨params, rest⟩ := p
          dsimp only
          rw [List.findSome?_cons, ih]
          cases params.flaw? <;> rfl

/-- All rounds of a sequence without a flaw are valid. -/
theorem flaw?_of_mem {rounds : Rounds} (h : rounds.flaw? = none) :
    ∀ params ∈ rounds.toList, params.flaw? = none := by
  rw [flaw?, flawWithin?_eq, List.findSome?_eq_none_iff] at h
  intro params hparams
  rw [toList, ← take_take (Nat.le_succ _)] at hparams
  exact h params (List.mem_of_mem_take hparams)

/-- The rounds of a sequence that comes to its end. -/
inductive Yields : Rounds → List RoundParams → Prop
  | listed (params : List RoundParams) : Yields (.listed params) params
  | between {min max maxSteps : Int64} {params : List RoundParams}
      (h : ∀ n, (between min max maxSteps).take n = params.take n) :
      Yields (between min max maxSteps) params

theorem take_listed (params : List RoundParams) (n : Nat) :
    (listed params).take n = params.take n := by
  induction n generalizing params with
  | zero => rfl
  | succ n ih =>
      cases params with
      | nil => rfl
      | cons p params => exact congrArg (p :: ·) (ih params)

theorem Yields.take_eq {rounds : Rounds} {params : List RoundParams}
    (h : rounds.Yields params) (n : Nat) : rounds.take n = params.take n := by
  cases h with
  | listed => exact take_listed params n
  | between h => exact h n

/-- The largest number is above no last length, so a range up to it goes on for ever. -/
theorem length_take_range {last : Int64} (hlast : last = Int64.maxValue) (n : Nat) :
    ∀ next, ((range next last).take n).length = n := by
  induction n with
  | zero => exact fun _ => rfl
  | succ n ih =>
      intro next
      have hle : ¬ last < next.tapeLength := by
        rw [hlast, Int64.not_lt]
        exact Int64.le_maxValue _
      rw [take, next?, if_neg (by simp [hle])]
      exact congrArg Nat.succ (ih _)

/-- How many rounds are left before a range ends. -/
def toGo (next : RoundParams) (last : Int64) : Nat :=
  if next.inverted then 2 * (last.toInt - next.tapeLength.toInt).toNat + 1
  else 2 * (last.toInt - next.tapeLength.toInt + 1).toNat

theorem toInt_succ {length last : Int64} (hle : length ≤ last)
    (hlast : last < Int64.maxValue) : (length + 1).toInt = length.toInt + 1 := by
  rw [Int64.le_iff_toInt_le] at hle
  rw [Int64.lt_iff_toInt_lt, Int64.toInt_maxValue] at hlast
  have hlow := Int64.le_toInt length
  rw [Int64.toInt_add, Int64.toInt_one]
  exact Int.bmod_eq_of_le (by omega) (by omega)

theorem length_le_toGo {last : Int64} (hlast : last < Int64.maxValue)
    {params : List RoundParams} :
    ∀ {next : RoundParams}, (next.inverted = true → next.tapeLength ≤ last) →
      (∀ n, (range next last).take n = params.take n) →
      params.length ≤ toGo next last := by
  induction params with
  | nil =>
      intro next _ _
      exact Nat.zero_le _
  | cons p params ih =>
      intro next hstart h
      have hgoes : ¬ (!next.inverted && decide (last < next.tapeLength)) = true := by
        intro hends
        have hfirst := h 1
        rw [take, next?, if_pos hends] at hfirst
        cases hfirst
      have hrest : ∀ n, (range (successor next) last).take n = params.take n := by
        intro n
        have hmore := h (n + 1)
        rw [take, next?, if_neg hgoes] at hmore
        exact (List.cons.inj hmore).2
      obtain ⟨length, inverted, maxSteps⟩ := next
      cases inverted with
      | false =>
          have hle : length ≤ last := by simpa [Int64.not_lt] using hgoes
          have hnext : (successor ⟨length, false, maxSteps⟩).tapeLength ≤ last := hle
          have hleft := ih (fun _ => hnext) hrest
          rw [Int64.le_iff_toInt_le] at hle
          simp only [successor, toGo, List.length_cons, if_true, if_false,
            Bool.false_eq_true] at hleft ⊢
          omega
      | true =>
          have hle : length ≤ last := hstart rfl
          have hleft := ih (by simp [successor]) hrest
          simp only [successor, toGo, List.length_cons, if_true, if_false,
            Bool.false_eq_true, toInt_succ hle hlast] at hleft ⊢
          omega

theorem Yields.length_le_bound {rounds : Rounds} {params : List RoundParams}
    (h : rounds.Yields params) : params.length ≤ rounds.bound := by
  cases h with
  | listed => exact Nat.le_refl _
  | @between min max maxSteps _ h =>
      by_cases hlast : max < Int64.maxValue
      · have hleft := length_le_toGo hlast (by simp) h
        simp only [toGo, Bool.false_eq_true, if_false] at hleft
        simp only [Rounds.between, bound]
        omega
      · have hmax : max = Int64.maxValue :=
          Int64.le_antisymm (Int64.le_maxValue _) (Int64.not_lt.mp hlast)
        have hlong := congrArg List.length (h (params.length + 1))
        rw [Rounds.between, length_take_range hmax, List.length_take] at hlong
        omega

theorem Yields.toList_eq {rounds : Rounds} {params : List RoundParams}
    (h : rounds.Yields params) : rounds.toList = params := by
  rw [toList, h.take_eq, List.take_of_length_le h.length_le_bound]

/-- The flaw of a sequence is the flaw of its first round that has one. -/
theorem Yields.flaw?_eq {rounds : Rounds} {params : List RoundParams}
    (h : rounds.Yields params) : rounds.flaw? = params.findSome? RoundParams.flaw? := by
  have hlength := h.length_le_bound
  rw [flaw?, flawWithin?_eq, h.take_eq, List.take_of_length_le (by omega)]

theorem toList_listed (params : List RoundParams) : (listed params).toList = params :=
  (Yields.listed params).toList_eq

theorem flaw?_listed {params : List RoundParams} (h : ∀ p ∈ params, p.flaw? = none) :
    (listed params).flaw? = none := by
  rw [(Yields.listed params).flaw?_eq, List.findSome?_eq_none_iff]
  exact h

end Rounds

end TapeDuel
