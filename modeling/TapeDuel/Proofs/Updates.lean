import TapeDuel.Proofs.Keeping

/-!
# Updates that only save

A save cannot fail. So an update that does nothing but save is committed exactly if it
does not end with a failure of its own, and what it leaves is said by a list:
`lasting` goes through a history of updates and has the saves of those that were
committed, in their order (`LedgerStore.useAll_updates`).

The games in this list are numbered as they were when they were saved. An update that
fails uses up its numbers too, so the numbers in the list have gaps, but none of them
comes twice (`numbers_lasting`).
-/

namespace TapeDuel

/-! ## Saves -/

/-- What can be saved. -/
inductive Save where
  | bot (bot : Bot)
  | game (record : GameRecord)

namespace Save

/-- A save as it is asked for. -/
def request : Save → Request
  | bot b => .saveBot b
  | game record => .saveGame record

/-- The next free number of a game, after a save. -/
def next (n : Nat) : Save → Nat
  | bot _ => n
  | game _ => n + 1

/-- Saves with their numbers, from `n` on. -/
def numbered : Nat → List Save → List (Nat × Save)
  | _, [] => []
  | n, s :: rest => (n, s) :: numbered (next n s) rest

/-- What a save is answered. -/
def reply : Nat × Save → Reply
  | (_, bot _) => .done
  | (n, game record) => .saved n record

/-- The ledger after a save, in which a game has the identifier of its number. -/
def keep (ids : Nat → GameId) (l : Ledger) : Nat × Save → Ledger
  | (_, bot b) => l.putBot b
  | (n, game record) => l.addGame (ids n) record

/-- A bot that is saved. -/
def bot? : Nat × Save → Option Bot
  | (_, bot b) => some b
  | (_, game _) => none

/-- A game that is saved, with its number. -/
def game? : Nat × Save → Option (Nat × GameRecord)
  | (_, bot _) => none
  | (n, game record) => some (n, record)

variable {ids : Nat → GameId}

theorem step_request (n : Nat) (s : Save) {t : Transaction} (hdone : t.isDone = false) :
    s.request.step ids n t =
      (.ok (reply (n, s), next n s),
        { t with current := keep ids t.current (n, s) }) := by
  cases s with
  | bot b =>
      simp [request, Request.step, Request.unnumbered, Request.replying,
        Transaction.saveBot, Transaction.change, hdone, reply, next, keep]
  | game record =>
      simp [request, Request.step, Request.keep, Transaction.saveGame,
        Transaction.change, hdone, reply, next, keep]

/-- Saves are done one after the other, and each is answered. -/
theorem steps_request (saves : List Save) (n : Nat) {t : Transaction}
    (hdone : t.isDone = false) :
    Request.steps ids n (saves.map request) t =
      (.ok ((numbered n saves).map reply), saves.foldl next n,
        { t with current := (numbered n saves).foldl (keep ids) t.current }) := by
  induction saves generalizing n t with
  | nil => rfl
  | cons s rest ih =>
      have hdone' :
          ({ t with current := keep ids t.current (n, s) } : Transaction).isDone =
          false := hdone
      rw [List.map_cons, Request.steps, step_request n s hdone]
      dsimp only
      rw [ih (next n s) hdone']
      rfl

/-! ## Numbers -/

theorem map_snd_numbered (saves : List Save) (n : Nat) :
    (numbered n saves).map Prod.snd = saves := by
  induction saves generalizing n with
  | nil => rfl
  | cons s rest ih => exact congrArg (s :: ·) (ih (next n s))

theorem numbered_append (saves more : List Save) (n : Nat) :
    numbered n (saves ++ more) =
      numbered n saves ++ numbered (saves.foldl next n) more := by
  induction saves generalizing n with
  | nil => rfl
  | cons s rest ih =>
      rw [List.cons_append, numbered, ih]
      rfl

theorem le_foldl_next (saves : List Save) (n : Nat) : n ≤ saves.foldl next n := by
  induction saves generalizing n with
  | nil => exact Nat.le_refl n
  | cons s rest ih =>
      have hnext : n ≤ next n s := by
        cases s with
        | bot b => exact Nat.le_refl n
        | game record => exact Nat.le_succ n
      exact Nat.le_trans hnext (ih _)

/-- The numbers of the games follow each other. -/
theorem numbers_numbered (saves : List Save) (n : Nat) :
    ((numbered n saves).filterMap game?).map Prod.fst =
      List.range' n (saves.foldl next n - n) := by
  induction saves generalizing n with
  | nil => simp [numbered]
  | cons s rest ih =>
      cases s with
      | bot b => exact ih n
      | game record =>
          have hle : n + 1 ≤ rest.foldl next (n + 1) := le_foldl_next rest (n + 1)
          have hlength : (game record :: rest).foldl next n - n =
              rest.foldl next (n + 1) - (n + 1) + 1 := by
            rw [List.foldl_cons, next]
            omega
          rw [hlength, List.range'_succ, ← ih]
          rfl

end Save

/-! ## Updates -/

/-- Saves that share one transaction, and the failure that it ends with if it does. -/
structure Update where
  saves : List Save
  abort : Option Failure := none

namespace Update

/-- An update as it is asked for. -/
def batch (u : Update) : Batch :=
  { requests := u.saves.map Save.request, abort := u.abort }

/-- What comes of an update: its own failure, or an answer to each save. -/
def result (n : Nat) (u : Update) : Except Failure (List Reply) :=
  match u.abort with
  | none => .ok ((Save.numbered n u.saves).map Save.reply)
  | some failure => .error failure

/-- The saves of the updates that do not end with a failure. -/
def lasting : Nat → List Update → List (Nat × Save)
  | _, [] => []
  | n, ⟨saves, none⟩ :: rest =>
    Save.numbered n saves ++ lasting (saves.foldl Save.next n) rest
  | n, ⟨saves, some _⟩ :: rest => lasting (saves.foldl Save.next n) rest

theorem lasting_cons (n : Nat) (u : Update) (rest : List Update) :
    lasting n (u :: rest) =
      lasting n [u] ++ lasting (u.saves.foldl Save.next n) rest := by
  obtain ⟨saves, abort⟩ := u
  cases abort with
  | none => simp only [lasting, List.append_nil]
  | some failure => rfl

theorem lasting_sublist (n : Nat) (updates : List Update) :
    (lasting n updates).Sublist (Save.numbered n (updates.flatMap saves)) := by
  induction updates generalizing n with
  | nil => exact List.Sublist.refl _
  | cons u rest ih =>
      rw [List.flatMap_cons, Save.numbered_append]
      obtain ⟨saves, abort⟩ := u
      cases abort with
      | none => exact (List.Sublist.refl _).append (ih _)
      | some failure => exact (ih _).trans (List.sublist_append_right _ _)

theorem mem_saves_of_mem_lasting {updates : List Update} {n : Nat} {s : Save}
    (h : (n, s) ∈ lasting 0 updates) : ∃ u ∈ updates, s ∈ u.saves := by
  have hmem := List.mem_map_of_mem (f := Prod.snd) ((lasting_sublist 0 updates).mem h)
  rw [Save.map_snd_numbered] at hmem
  exact List.mem_flatMap.mp hmem

/-- Games that last have different numbers, and these were given out. -/
theorem numbers_lasting (updates : List Update) :
    (((lasting 0 updates).filterMap Save.game?).map Prod.fst).Sublist
      (List.range ((updates.flatMap saves).foldl Save.next 0)) := by
  have hall := Save.numbers_numbered (updates.flatMap saves) 0
  rw [Nat.sub_zero, ← List.range_eq_range'] at hall
  rw [← hall]
  exact ((lasting_sublist 0 updates).filterMap _).map _

end Update

namespace LedgerStore

variable {ids : Nat → GameId} {s : LedgerStore}

/-- The ledger after one save after the other. -/
def keepAll (ids : Nat → GameId) (s : LedgerStore) (saves : List (Nat × Save)) :
    LedgerStore :=
  { s with ledger := saves.foldl (Save.keep ids) s.ledger }

theorem keepAll_append (saves more : List (Nat × Save)) :
    s.keepAll ids (saves ++ more) = (s.keepAll ids saves).keepAll ids more := by
  rw [keepAll, List.foldl_append]
  rfl

/-- An update has the result that it should have, and leaves its saves or nothing. -/
theorem run_update (hopen : s.isOpen = true) (n : Nat) (u : Update) :
    s.run ids n u.batch =
      (u.result n, u.saves.foldl Save.next n, s.keepAll ids (Update.lasting n [u])) := by
  have hsteps := @Save.steps_request ids u.saves n (.start s.ledger) rfl
  obtain ⟨saves, abort⟩ := u
  rw [run, if_pos hopen, Batch.run]
  dsimp only [Update.batch]
  rw [hsteps]
  cases abort with
  | none =>
      simp [Update.result, Update.lasting, keepAll, Transaction.settle,
        Transaction.commit, Transaction.start]
  | some failure =>
      simp [Update.result, Update.lasting, keepAll, Transaction.settle,
        Transaction.rollback, Transaction.start]

/-- Update after update leaves what lasts. -/
theorem useAll_updates (hopen : s.isOpen = true) (n : Nat) (updates : List Update) :
    useAll ids (n, s) (updates.map fun u => .batch u.batch) =
      ((updates.flatMap Update.saves).foldl Save.next n,
        s.keepAll ids (Update.lasting n updates)) := by
  induction updates generalizing n s with
  | nil => rfl
  | cons u rest ih =>
      have hopen' : (s.keepAll ids (Update.lasting n [u])).isOpen = true := hopen
      rw [Update.lasting_cons, keepAll_append, List.flatMap_cons, List.foldl_append,
        List.map_cons, useAll, List.foldl_cons, use, run_update hopen]
      exact ih hopen' _

/-- A question is a transaction of its own. -/
theorem run_request (hopen : s.isOpen = true) (ids : Nat → GameId) (n : Nat)
    (r : Request) :
    (s.run ids n { requests := [r] }).1 =
      match r.step ids n (.start s.ledger) with
      | (.ok (reply, _), _) => .ok [reply]
      | (.error failure, _) => .error failure := by
  have hdone : (Request.steps ids n [r] (.start s.ledger)).2.2.isDone = false :=
    (Request.outside_steps ids [r] n (.start s.ledger)).2
  rw [run, if_pos hopen, Batch.run]
  rcases hstep : r.step ids n (.start s.ledger) with ⟨failure | ⟨reply, n'⟩, t⟩
  · simp [Request.steps, hstep, Transaction.settle]
  · have hopened : t.isDone = false := by simpa [Request.steps, hstep] using hdone
    simp [Request.steps, hstep, Transaction.settle, Transaction.commit, hopened]

end LedgerStore

end TapeDuel
