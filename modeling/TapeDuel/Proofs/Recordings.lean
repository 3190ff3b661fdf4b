import TapeDuel.Proofs.Keeping
import TapeDuel.Proofs.Sessions

/-!
# What a recording leaves in the ledger

Bots are recorded in one transaction with the games that they played. Of several
bots of one name the last one is left, which is all that can go wrong with bots;
with games nothing can, as long as their identifiers are new and different from
each other. What is read back for a replay is said in the same terms: the game of
an identifier, and the bots that are kept under the names it has for them.
-/

namespace TapeDuel

/-! ## Bots and games on the ledger -/

namespace Ledger

/-- Bots and games are kept, in this order. -/
def recorded (l : Ledger) (bots : List Bot) (games : List (GameId × GameRecord)) :
    Ledger :=
  games.foldl (fun l g => l.addGame g.1 g.2) (bots.foldl putBot l)

/-- The bot is the one that is kept under its name. -/
def Keeps (l : Ledger) (bot : Bot) : Prop :=
  l.bot? bot.name = some ⟨bot.name, bot.source, Binary.writeProgram bot.program⟩

variable {l : Ledger}

theorem bot?_foldl_addGame (games : List (GameId × GameRecord)) (name : String) :
    (games.foldl (fun l g => l.addGame g.1 g.2) l).bot? name = l.bot? name := by
  induction games generalizing l with
  | nil => rfl
  | cons g games ih => rw [List.foldl_cons, ih, bot?_addGame]

theorem bot?_foldl_putBot_of_ne {bots : List Bot} {name : String}
    (h : ∀ bot ∈ bots, bot.name ≠ name) :
    (bots.foldl putBot l).bot? name = l.bot? name := by
  induction bots generalizing l with
  | nil => rfl
  | cons bot bots ih =>
      obtain ⟨hbot, hbots⟩ := List.forall_mem_cons.mp h
      rw [List.foldl_cons, ih hbots, bot?_putBot_of_ne l bot hbot.symm]

/-- Of the bots that are recorded under one name the last one is kept. -/
theorem keeps_recorded {before after : List Bot} {bot : Bot}
    (hafter : ∀ other ∈ after, other.name ≠ bot.name)
    (games : List (GameId × GameRecord)) :
    (l.recorded (before ++ bot :: after) games).Keeps bot := by
  rw [Keeps, recorded, bot?_foldl_addGame, List.foldl_append, List.foldl_cons,
    bot?_foldl_putBot_of_ne hafter]
  exact bot?_putBot_self _ bot

theorem gameIds_foldl_putBot (bots : List Bot) :
    (bots.foldl putBot l).gameIds = l.gameIds := by
  induction bots generalizing l with
  | nil => rfl
  | cons bot bots ih => rw [List.foldl_cons, ih, gameIds_putBot]

theorem gameIds_foldl_addGame (games : List (GameId × GameRecord)) :
    (games.foldl (fun l g => l.addGame g.1 g.2) l).gameIds =
      l.gameIds ++ games.map Prod.fst := by
  induction games generalizing l with
  | nil => simp
  | cons g games ih =>
      rw [List.foldl_cons, ih, gameIds_addGame, List.map_cons, List.append_assoc,
        List.singleton_append]

theorem game?_foldl_addGame_of_ne {games : List (GameId × GameRecord)} {id : GameId}
    (h : ∀ g ∈ games, g.1 ≠ id) :
    (games.foldl (fun l g => l.addGame g.1 g.2) l).game? id = l.game? id := by
  induction games generalizing l with
  | nil => rfl
  | cons g games ih =>
      obtain ⟨hg, hgames⟩ := List.forall_mem_cons.mp h
      rw [List.foldl_cons, ih hgames, game?_addGame_of_ne hg]

/-- Every game that is recorded under a new identifier is found under it. -/
theorem game?_recorded {games : List (GameId × GameRecord)} (bots : List Bot)
    (hids : (games.map Prod.fst).Nodup) {g : GameId × GameRecord} (hg : g ∈ games)
    (hnew : g.1 ∉ l.gameIds) : (l.recorded bots games).game? g.1 = some g.2 := by
  obtain ⟨before, after, rfl⟩ := List.append_of_mem hg
  obtain ⟨hbefore, hnot⟩ : g.1 ∉ before.map Prod.fst ∧ g.1 ∉ after.map Prod.fst := by
    rw [List.map_append, List.map_cons, List.nodup_middle, List.nodup_cons,
      List.mem_append, not_or] at hids
    exact hids.1
  have hfresh : g.1 ∉
      (before.foldl (fun l g => l.addGame g.1 g.2) (bots.foldl putBot l)).gameIds := by
    rw [gameIds_foldl_addGame, gameIds_foldl_putBot, List.mem_append, not_or]
    exact ⟨hnew, hbefore⟩
  have hafter : ∀ other ∈ after, other.1 ≠ g.1 :=
    fun other hother heq => hnot (heq ▸ List.mem_map_of_mem hother)
  rw [recorded, List.foldl_append, List.foldl_cons, game?_foldl_addGame_of_ne hafter,
    game?_addGame_self hfresh]

end Ledger

/-! ## Reading back -/

namespace Transaction

variable {t : Transaction}

theorem forEach_change {α : Type} (context : α → String) (f : α → Ledger → Ledger)
    (as : List α) (stored l : Ledger) :
    forEach (fun a => change (context a) (f a)) as ⟨stored, l, false⟩ =
      (.ok (as.map fun _ => ()), ⟨stored, as.foldl (fun l a => f a l) l, false⟩) := by
  induction as generalizing l with
  | nil => rfl
  | cons a as ih =>
      rw [forEach, change, if_neg Bool.false_ne_true]
      dsimp only
      rw [ih]
      rfl

/-- A compiled bot that is kept is read back, unless it is too long. -/
theorem loadBot_of_keeps {bot : Bot} (hopen : t.isDone = false)
    (hkeeps : t.current.Keeps bot) (hcompiled : bot.program.Canonical)
    (hsize : bot.program.size < 2 ^ 63) :
    loadBot bot.name t =
      (if bot.program.size ≤ Binary.maxElements then .ok bot
        else .error (.within s!"bot {bot.name}" (.corrupt .malformed)), t) := by
  rw [Ledger.Keeps] at hkeeps
  simp only [loadBot, view, hopen, hkeeps, hcompiled.readProgram_writeProgram hsize,
    Bool.false_eq_true, if_false]
  split
  · next h =>
      split at h <;> cases h
      rw [if_neg ‹_›]
  · next h =>
      split at h <;> cases h
      rw [if_pos ‹_›]

theorem loadGame_of_game? {id : GameId} {g : GameRecord} (hopen : t.isDone = false)
    (hgame : t.current.game? id = some g) : loadGame id t = (.ok g, t) := by
  simp only [loadGame, view, hopen, hgame, Bool.false_eq_true, if_false]

end Transaction

/-- What was loaded is compiled. -/
theorem Bot.compile_of_loadAll {library : Library} {references : List String}
    {bots : List Bot} (h : (loadAll library references).1 = .ok bots) :
    ∀ bot ∈ bots, compile bot.source = .ok bot.program := by
  induction references generalizing bots with
  | nil =>
      cases h
      nofun
  | cons reference references ih =>
      rw [loadAll] at h
      rcases hload : load library reference with ⟨failure | bot, records⟩ <;>
        rw [hload] at h
      · cases h
      · rcases hrest : loadAll library references with ⟨failure | rest, more⟩ <;>
          rw [hrest] at h <;> cases h
        refine List.forall_mem_cons.mpr ⟨?_, ih (congrArg Prod.fst hrest)⟩
        rw [load] at hload
        rcases hsource : library.source reference with ⟨failure | source, records'⟩ <;>
          rw [hsource] at hload
        · cases hload
        · cases hnew : new (nameOf reference) source <;> simp only [hnew] at hload <;>
            cases hload
          obtain ⟨-, rfl, hcompile⟩ := new_eq_ok_iff.mp hnew
          exact hcompile

/-! ## Recording as a job -/

namespace App

/-- What was put back in a place is there. -/
theorem get_put (shelf : Shelf) (place : String) (l : Ledger) :
    (shelf.put (some place) l).get (some place) = l := by
  simp [Shelf.put, Shelf.get]

/-- Putting a ledger back as it was changes none. -/
theorem get_put_get (shelf : Shelf) (place other : LedgerPlace) :
    (shelf.put place (shelf.get place)).get other = shelf.get other := by
  cases place with
  | none => rfl
  | some place =>
      cases other with
      | none => rfl
      | some other =>
          by_cases hsame : other = place
          · rw [hsame, get_put]
          · have hlookup : (shelf.filter fun l => l.1 ≠ place).lookup other =
                shelf.lookup other := by
              induction shelf with
              | nil => rfl
              | cons l shelf ih =>
                  by_cases hl : l.1 = place
                  · have hother : (other == l.1) = false := by simp [hl, hsame]
                    rw [List.filter_cons_of_neg (by simp [hl]), ih, List.lookup_cons,
                      hother]
                  · rw [List.filter_cons_of_pos (by simp [hl]), List.lookup_cons,
                      List.lookup_cons, ih]
            have hplace : (other == place) = false := by simp [hsame]
            simp only [Shelf.put, Shelf.get, List.lookup_cons, hplace, hlookup]

/-- Two moments of a session with the same ledgers. -/
def Session.SameLedgers (s t : Session) : Prop :=
  ∀ place, t.shelf.get place = s.shelf.get place

namespace Surroundings

open Work

variable {w : Surroundings} {o : Options}

/-- A recording cannot fail, and it leaves what was recorded. -/
theorem update_recordStep (l : Ledger) (bots : List Bot)
    (games : List (GameId × GameRecord)) :
    l.update (recordStep bots games) = (.ok (), l.recorded bots games) := by
  have hbots : Transaction.forEach Transaction.saveBot bots ⟨l, l, false⟩ =
      (.ok (bots.map fun _ => ()), ⟨l, bots.foldl Ledger.putBot l, false⟩) :=
    Transaction.forEach_change _ (fun bot l => l.putBot bot) bots l l
  have hgames : Transaction.forEach (fun g => Transaction.saveGame g.1 g.2) games
      ⟨l, bots.foldl Ledger.putBot l, false⟩ =
        (.ok (games.map fun _ => ()), ⟨l, l.recorded bots games, false⟩) :=
    Transaction.forEach_change _ (fun (g : GameId × GameRecord) l => l.addGame g.1 g.2)
      games l _
  have hstep : recordStep bots games ⟨l, l, false⟩ =
      (.ok (), ⟨l, l.recorded bots games, false⟩) := by
    rw [recordStep, Transaction.andThen, hbots]
    dsimp only
    rw [Transaction.andThen, hgames]
  rw [Ledger.update, Transaction.start, hstep]
  rfl

/-- The identifiers of the games that are recorded next. -/
def nextIds (w : Surroundings) (s : Session) (n : Nat) : List GameId :=
  (List.range' s.idsUsed n).map w.ids

theorem run_takeIds (s : Session) (n : Nat) :
    (takeIds w n).run.run s =
      (.ok (w.nextIds s n), { s with idsUsed := s.idsUsed + n }) :=
  rfl

/-- If it is asked for, bots and games are recorded on the ledger that the options
lead to. -/
theorem run_recordGames (hrecord : o.record = true) {s : Session} {place : LedgerPlace}
    (h : w.FindsLedger o s.shelf place) (bots : List Bot) (games : List GameRecord) :
    ∃ logged, (recordGames w o bots games).run.run s =
      (.ok (), { s with
        logged
        idsUsed := s.idsUsed + games.length
        shelf := s.shelf.put place ((s.shelf.get place).recorded bots
          ((w.nextIds s games.length).zip games)) }) := by
  have hplace : w.FindsLedger o
      { s with idsUsed := s.idsUsed + games.length }.shelf place := h
  obtain ⟨logged, hrun⟩ := run_withLedger hplace
    (recordStep bots ((w.nextIds s games.length).zip games))
  simp only [Shelf.update, update_recordStep] at hrun
  rw [recordGames, if_pos hrecord, run_bind_of_ok (run_takeIds s games.length),
    run_bind_of_ok hrun]
  exact ⟨_, run_log _ _⟩

end Surroundings

end App

end TapeDuel
