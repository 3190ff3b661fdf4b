import TapeDuel.Failure

/-!
# Semaphores

A semaphore admits a limited number of holders at a time. Taking a place when none is
free has to wait, and so has giving one back when none is held.
-/

namespace TapeDuel

/-- A number of places, some of them held. -/
structure Semaphore where
  capacity : Nat
  held : Nat := 0
  held_le : held ≤ capacity := by omega
deriving DecidableEq

namespace Semaphore

/-- A semaphore with all places free. -/
def new (capacity : Nat) : Semaphore :=
  { capacity }

/-- The most places that memory can address, beside what the semaphore needs for
itself. -/
def maxCapacity : Nat :=
  281474976710560

/-- A semaphore with all places free, unless no semaphore has so many. -/
def new? (capacity : Int) : Except Fault Semaphore :=
  if 0 ≤ capacity ∧ capacity ≤ maxCapacity then .ok (new capacity.toNat)
  else .error .noRoom

/-- Whether every place is held. -/
def isFull (s : Semaphore) : Bool :=
  s.held = s.capacity

/-- Takes a place; none if it has to wait. -/
def acquire? (s : Semaphore) : Option Semaphore :=
  if h : s.held < s.capacity then some { s with held := s.held + 1, held_le := h }
  else none

/-- Gives a place back; none if it has to wait. -/
def release? (s : Semaphore) : Option Semaphore :=
  if 0 < s.held then
    some { s with
      held := s.held - 1, held_le := Nat.le_trans (Nat.sub_le _ _) s.held_le }
  else none

theorem held_acquire? {s t : Semaphore} (h : s.acquire? = some t) :
    t.held = s.held + 1 := by
  simp only [acquire?] at h
  split at h
  · simp only [Option.some.injEq] at h
    rw [← h]
  · simp at h

theorem held_release? {s t : Semaphore} (h : s.release? = some t) :
    t.held + 1 = s.held := by
  simp only [release?] at h
  split at h
  · simp only [Option.some.injEq] at h
    rw [← h]
    show s.held - 1 + 1 = s.held
    omega
  · simp at h

end Semaphore

end TapeDuel
