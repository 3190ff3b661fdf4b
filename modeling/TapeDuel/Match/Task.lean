/-!
# Tasks

A task is a piece of work over a shared state that is done in single steps. After a
step the rest of the work is again a task, until nothing is left or a step fails. A
chain does its tasks one after the other, each to its end, and is itself a task, so
chains nest.
-/

namespace TapeDuel

/-- Work over a state `σ` that may fail with an `ε`. -/
inductive Task (σ ε : Type) where
  /-- One step, and the work it leaves. -/
  | step (run : σ → Except ε Unit × σ) (next : Option (Task σ ε))
  /-- Tasks to be done in order. -/
  | chain (tasks : List (Task σ ε))

namespace Task

variable {σ ε : Type}

/-- A task of a single step. -/
def single (run : σ → Except ε Unit × σ) : Task σ ε :=
  step run none

/-- A task that fails at once. -/
def failing (error : ε) : Task σ ε :=
  step (fun s => (.error error, s)) none

/-- Does one step and returns the work that is left, if there is any. -/
def advance : Task σ ε → σ → Except ε (Option (Task σ ε)) × σ
  | step run next, s =>
    match run s with
    | (.ok (), s) => (.ok next, s)
    | (.error e, s) => (.error e, s)
  | chain [], s => (.ok none, s)
  | chain (t :: ts), s =>
    match t.advance s with
    | (.error e, s) => (.error e, s)
    | (.ok (some t), s) => (.ok (some (chain (t :: ts))), s)
    | (.ok none, s) =>
      match ts with
      | [] => (.ok none, s)
      | t :: ts => (.ok (some (chain (t :: ts))), s)

mutual

/-- The number of steps a task can take at most. -/
def weight : Task σ ε → Nat
  | step _ none => 1
  | step _ (some next) => next.weight + 1
  | chain tasks => weights tasks + 1

/-- The number of steps several tasks can take at most. -/
def weights : List (Task σ ε) → Nat
  | [] => 0
  | t :: ts => t.weight + weights ts

end

theorem weight_pos (t : Task σ ε) : 0 < t.weight := by
  match t with
  | step _ none => simp [weight]
  | step _ (some _) => simp [weight]
  | chain _ => simp [weight]

/-- Every step leaves less to do. -/
theorem weight_advance_lt {s s' : σ} : ∀ {t t' : Task σ ε},
    t.advance s = (.ok (some t'), s') → t'.weight < t.weight
  | step run next, t', h => by
    simp only [advance] at h
    split at h
    · next s₁ hrun =>
      simp only [Prod.mk.injEq, Except.ok.injEq] at h
      obtain ⟨rfl, -⟩ := h
      simp [weight]
    · next e s₁ hrun => simp at h
  | chain [], t', h => by simp [advance] at h
  | chain (t :: ts), t', h => by
    rw [advance] at h
    split at h
    · next e s₁ hadv => simp at h
    · next t₁ s₁ hadv =>
      simp only [Prod.mk.injEq, Except.ok.injEq, Option.some.injEq] at h
      obtain ⟨rfl, -⟩ := h
      have := weight_advance_lt hadv
      simp only [weight, weights]
      omega
    · next s₁ hadv =>
      split at h
      · simp at h
      · next u us =>
        simp only [Prod.mk.injEq, Except.ok.injEq, Option.some.injEq] at h
        obtain ⟨rfl, -⟩ := h
        have := weight_pos t
        simp only [weight, weights]
        omega

/-- Does a task to its end or to its first failure. -/
def run (t : Task σ ε) (s : σ) : Except ε Unit × σ :=
  match _h : t.advance s with
  | (.error e, s) => (.error e, s)
  | (.ok none, s) => (.ok (), s)
  | (.ok (some t'), s') => run t' s'
termination_by t.weight
decreasing_by exact weight_advance_lt (by assumption)

end Task

end TapeDuel
