import TapeDuel.Match.Task

/-!
# Chains run depth first

A chain that is advanced hands on what is left of it: its first task is replaced by
the rest of that task, and is dropped when there is no rest. Nothing in this names an
order for chains within chains. The order becomes visible when a task is laid out
flat, as the list of all single steps below it from left to right (`Task.steps`).
Advancing a task does the first of them and leaves the others, or does nothing but
drop an empty chain and leaves them all (`Task.perform_steps`). So the run of a task
is the run of that list.

A tree of work has leaves, which do something in one or several steps and may fail in
the last one, and lists of trees, which may be empty. Its run does what its leaves do,
one leaf after the other, up to the first that fails.
-/

namespace TapeDuel

variable {σ ε : Type}

/-! ## Steps in a row -/

/-- Does steps in order, up to the first that fails. -/
def perform : List (σ → Except ε Unit × σ) → σ → Except ε Unit × σ
  | [], s => (.ok (), s)
  | f :: fs, s =>
    match f s with
    | (.error e, s) => (.error e, s)
    | (.ok (), s) => perform fs s

theorem perform_append (fs gs : List (σ → Except ε Unit × σ)) (s : σ) :
    perform (fs ++ gs) s =
      match perform fs s with
      | (.error e, s) => (.error e, s)
      | (.ok (), s) => perform gs s := by
  induction fs generalizing s with
  | nil => rfl
  | cons f fs ih =>
      simp only [List.cons_append, perform]
      rcases f s with ⟨e | ⟨⟩, s'⟩
      · rfl
      · exact ih s'

namespace Task

mutual

/-- All single steps of a task, from left to right. -/
def steps : Task σ ε → List (σ → Except ε Unit × σ)
  | step run none => [run]
  | step run (some next) => run :: next.steps
  | chain tasks => stepsOf tasks

/-- All single steps of several tasks. -/
def stepsOf : List (Task σ ε) → List (σ → Except ε Unit × σ)
  | [] => []
  | t :: ts => t.steps ++ stepsOf ts

end

/-- The steps of the work that is left, if there is any. -/
def stepsLeft : Option (Task σ ε) → List (σ → Except ε Unit × σ)
  | none => []
  | some t => t.steps

/-- What advancing a task leaves are the steps that it has not done. -/
theorem perform_steps : ∀ (t : Task σ ε) (s : σ),
    perform t.steps s =
      match t.advance s with
      | (.error e, s) => (.error e, s)
      | (.ok rest, s) => perform (stepsLeft rest) s
  | step run none, s => by
      rw [steps, advance, perform]
      rcases run s with ⟨e | ⟨⟩, s'⟩ <;> rfl
  | step run (some next), s => by
      rw [steps, advance, perform]
      rcases run s with ⟨e | ⟨⟩, s'⟩ <;> rfl
  | chain [], s => by
      rw [steps, stepsOf, advance]
      rfl
  | chain (t :: ts), s => by
      rw [steps, stepsOf, advance, perform_append, perform_steps t s]
      rcases t.advance s with ⟨e | rest, s'⟩
      · rfl
      · cases rest with
        | some t' => simp only [stepsLeft, steps, stepsOf, perform_append]
        | none =>
            cases ts with
            | nil => rfl
            | cons u us => simp only [stepsLeft, steps, stepsOf, perform]

/-- A task is run as its steps are, one after the other. -/
theorem run_eq_perform (t : Task σ ε) (s : σ) : t.run s = perform t.steps s := by
  induction t, s using Task.run.induct with
  | case1 t s e s' h => rw [run, perform_steps, h]
  | case2 t s s' h =>
      rw [run, perform_steps, h]
      rfl
  | case3 t s t' s' h ih =>
      rw [run, perform_steps, h]
      exact ih

/-- The run of a task that is given up when it is not over after `n` steps. -/
def runFor : Nat → Task σ ε → σ → Option (Except ε Unit × σ)
  | 0, _, _ => none
  | n + 1, t, s =>
    match t.advance s with
    | (.error e, s) => some (.error e, s)
    | (.ok none, s) => some (.ok (), s)
    | (.ok (some t), s) => t.runFor n s

/-- A task is over at the latest when it has taken as many steps as it weighs. -/
theorem runFor_of_weight_le {t : Task σ ε} {n : Nat} {s : σ} (h : t.weight ≤ n) :
    t.runFor n s = some (t.run s) := by
  induction n generalizing t s with
  | zero =>
      have hpos := weight_pos t
      omega
  | succ n ih =>
      rw [runFor]
      split
      · next e s' hadvance => rw [run, hadvance]
      · next s' hadvance => rw [run, hadvance]
      · next t' s' hadvance =>
          have hlt := weight_advance_lt hadvance
          have hrest : t'.weight ≤ n := by omega
          rw [run, hadvance]
          exact ih hrest

/-! ## Trees of work -/

/-- What is done in the end when effects follow each other. -/
def applyAll (effects : List (σ → σ)) (s : σ) : σ :=
  effects.foldl (fun s f => f s) s

theorem applyAll_append (fs gs : List (σ → σ)) (s : σ) :
    applyAll (fs ++ gs) s = applyAll gs (applyAll fs s) :=
  List.foldl_append

/-- A leaf does something in each of its steps, and its last step may fail. -/
inductive Leaf (σ ε : Type) where
  | last (effects : List (σ → σ))
  | more (effects : List (σ → σ)) (next : Leaf σ ε)
  | fails (effects : List (σ → σ)) (error : ε)

namespace Leaf

def task : Leaf σ ε → Task σ ε
  | last effects => step (fun s => (.ok (), applyAll effects s)) none
  | more effects next => step (fun s => (.ok (), applyAll effects s)) (some next.task)
  | fails effects error => step (fun s => (.error error, applyAll effects s)) none

/-- All that a leaf does. -/
def effects : Leaf σ ε → List (σ → σ)
  | last effects => effects
  | more effects next => effects ++ next.effects
  | fails effects _ => effects

/-- How a leaf fails, if it does. -/
def error? : Leaf σ ε → Option ε
  | last _ => none
  | more _ next => next.error?
  | fails _ error => some error

theorem perform_steps (l : Leaf σ ε) (s : σ) :
    perform l.task.steps s =
      (match l.error? with
        | none => .ok ()
        | some e => .error e, applyAll l.effects s) := by
  induction l generalizing s with
  | last effects => rfl
  | more effects next ih =>
      rw [task, steps, perform, Leaf.effects, applyAll_append]
      exact ih (applyAll effects s)
  | fails effects error => rfl

end Leaf

section Leaves

variable {leaves : List (Leaf σ ε)}

theorem perform_of_no_error (h : ∀ l ∈ leaves, l.error? = none) (s : σ) :
    perform (leaves.flatMap fun l => l.task.steps) s =
      (.ok (), applyAll (leaves.flatMap Leaf.effects) s) := by
  induction leaves generalizing s with
  | nil => rfl
  | cons l leaves ih =>
      obtain ⟨hl, hleaves⟩ := List.forall_mem_cons.mp h
      rw [List.flatMap_cons, List.flatMap_cons, perform_append, l.perform_steps, hl,
        applyAll_append]
      exact ih hleaves _

/-- The leaves behind the first that fails are not reached. -/
theorem perform_of_first_error {l : Leaf σ ε} {e : ε} (h : ∀ l ∈ leaves, l.error? = none)
    (hl : l.error? = some e) (behind : List (Leaf σ ε)) (s : σ) :
    perform ((leaves ++ l :: behind).flatMap fun l => l.task.steps) s =
      (.error e, applyAll ((leaves ++ [l]).flatMap Leaf.effects) s) := by
  rw [List.flatMap_append, perform_append, perform_of_no_error h]
  dsimp only
  rw [List.flatMap_cons, perform_append, l.perform_steps, hl, List.flatMap_append,
    List.flatMap_singleton, applyAll_append]

end Leaves

/-- Work that is made of leaves and of lists, in any order and nested in any way. -/
inductive Tree (σ ε : Type) where
  | leaf (l : Leaf σ ε)
  | list (trees : List (Tree σ ε))

namespace Tree

mutual

/-- The work of a tree: a list is a chain. -/
def task : Tree σ ε → Task σ ε
  | leaf l => l.task
  | list trees => chain (tasks trees)

def tasks : List (Tree σ ε) → List (Task σ ε)
  | [] => []
  | t :: ts => t.task :: tasks ts

end

mutual

/-- The leaves of a tree, from left to right. -/
def leaves : Tree σ ε → List (Leaf σ ε)
  | leaf l => [l]
  | list trees => leavesOf trees

def leavesOf : List (Tree σ ε) → List (Leaf σ ε)
  | [] => []
  | t :: ts => t.leaves ++ leavesOf ts

end

mutual

theorem steps_task : ∀ t : Tree σ ε,
    t.task.steps = t.leaves.flatMap fun l => l.task.steps
  | leaf l => by rw [task, leaves, List.flatMap_singleton]
  | list trees => by rw [task, steps, leaves, stepsOf_tasks trees]

theorem stepsOf_tasks : ∀ trees : List (Tree σ ε),
    stepsOf (tasks trees) = (leavesOf trees).flatMap fun l => l.task.steps
  | [] => rfl
  | t :: ts => by
      rw [tasks, stepsOf, leavesOf, List.flatMap_append, steps_task t, stepsOf_tasks ts]

end

/-- A tree of work is done depth first and from left to right. Its run is over after no
more steps than it weighs. If no leaf fails, it does what its leaves do, one after the
other, and succeeds. Otherwise it does what they do up to the first leaf that fails,
and fails as that leaf does. -/
theorem runs_depth_first (t : Tree σ ε) (s : σ) :
    t.task.runFor t.task.weight s = some (t.task.run s) ∧
    ((∀ l ∈ t.leaves, l.error? = none) →
      t.task.run s = (.ok (), applyAll (t.leaves.flatMap Leaf.effects) s)) ∧
    ∀ before l behind e, t.leaves = before ++ l :: behind →
      (∀ l ∈ before, l.error? = none) → l.error? = some e →
      t.task.run s = (.error e, applyAll ((before ++ [l]).flatMap Leaf.effects) s) := by
  refine ⟨runFor_of_weight_le (Nat.le_refl _), fun hleaves => ?_,
    fun before l behind e hsplit hbefore hl => ?_⟩
  · rw [run_eq_perform, steps_task, perform_of_no_error hleaves]
  · rw [run_eq_perform, steps_task, hsplit, perform_of_first_error hbefore hl]

/-- A leaf that writes the numbers from `n` down to one, one in each step. -/
def countdown : Nat → Leaf (List Nat) String
  | 0 => .last [(· ++ [0])]
  | 1 => .last [(· ++ [1])]
  | n + 2 => .more [(· ++ [n + 2])] (countdown (n + 1))

/-- The theorem at a tree with an empty list in it whose third leaf fails, deep inside:
the fourth is not reached. -/
theorem runs_depth_first_nested :
    (list [leaf (countdown 2), list [], list [list [leaf (countdown 1)],
      leaf (.fails [] "stop")], leaf (countdown 3)]).task.run [] =
        (.error "stop", [2, 1, 1]) := by
  obtain ⟨-, -, hfails⟩ := runs_depth_first (list [leaf (countdown 2), list [],
    list [list [leaf (countdown 1)], leaf (.fails [] "stop")], leaf (countdown 3)]) []
  exact hfails [countdown 2, countdown 1] (.fails [] "stop") [countdown 3] "stop" rfl
    (by simp [countdown, Leaf.error?]) rfl

end Tree

end Task

end TapeDuel
