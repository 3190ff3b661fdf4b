import TapeDuel.Match.Game
import TapeDuel.Proofs.DepthFirst

/-!
# A game is its rounds in order

A game is a task, and a task is done by advancing it until nothing is left.
For a chain of single steps that is the plain recursion over the chain, and
`Game.run_task_cons` says so for the rounds of a game: the first round is
played, and unless it fails the rest goes on from the state behind it.
-/

namespace TapeDuel

namespace Task

variable {σ ε : Type}

theorem run_chain_nil (s : σ) :
    (chain [] : Task σ ε).run s = (.ok (), s) := by
  rw [run, advance]

/-- A chain does its first step and then, if that came through, the rest. -/
theorem run_chain_single (f : σ → Except ε Unit × σ) (tasks : List (Task σ ε))
    (s : σ) :
    (chain (single f :: tasks)).run s =
      match f s with
      | (.error e, s') => (.error e, s')
      | (.ok (), s') => (chain tasks).run s' := by
  rw [run_eq_perform, steps, stepsOf, single, steps, List.singleton_append, perform]
  rcases f s with ⟨e | ⟨⟩, s'⟩
  · rfl
  · exact (run_eq_perform (chain tasks) s').symm

end Task

namespace Game

variable (interrupts : Interrupts) (a b : Program)

theorem run_task_nil (s : GameState) :
    (task interrupts a b []).run s = (.ok (), s) :=
  Task.run_chain_nil s

theorem run_task_cons (params : RoundParams) (rounds : List RoundParams)
    (s : GameState) :
    (task interrupts a b (params :: rounds)).run s =
      match playRound interrupts a b params s with
      | (.error e, s') => (.error e, s')
      | (.ok (), s') => (task interrupts a b rounds).run s' := by
  rw [task, List.map_cons, Task.run_chain_single]
  rcases playRound interrupts a b params s with ⟨e | ⟨⟩, s'⟩
  · rfl
  · rfl

end Game

end TapeDuel
