import TapeDuel.Proofs.KeptBots
import TapeDuel.Proofs.Updates

/-!
# The ledger is a pair of maps

Behind its lists of bots, games and rounds the ledger is two maps: bots under their
names and games under their identifiers. A save puts one entry into one of them. What
is put into the lists can be asked for again as long as every program can be read and
every identifier is new (`Ledger.Holds`), so a history of updates comes to the maps
that its lasting saves make, and every question is answered from them
(`LedgerStore.Answers`).

Where several updates are done and some of them fail, the identifiers of games that
were dropped are used up. New identifiers are therefore asked of all games that were
saved, not only of those that lasted.
-/

namespace TapeDuel

/-- The program of a bot comes through its binary form. -/
def Bot.IsReadable (bot : Bot) : Prop :=
  Binary.readProgram (Binary.writeProgram bot.program) = .ok bot.program

theorem Bot.isReadable_of_compile {bot : Bot} {source : Text}
    (hcompile : compile source = .ok bot.program)
    (hsize : bot.program.size ≤ Binary.maxElements) : bot.IsReadable := by
  have hbound : Binary.maxElements < 2 ^ 63 := by decide
  rw [IsReadable, (canonical_of_compile hcompile).readProgram_writeProgram (by omega),
    if_pos hsize]

/-- Bots under their names and games under their identifiers. -/
structure Maps where
  bots : String → Option Bot
  games : GameId → Option GameRecord

namespace Maps

/-- Maps without entries. -/
def empty : Maps :=
  ⟨fun _ => none, fun _ => none⟩

/-- The maps after a save. -/
def keep (ids : Nat → GameId) (m : Maps) : Nat × Save → Maps
  | (_, .bot bot) => { m with bots := Function.update m.bots bot.name (some bot) }
  | (n, .game record) =>
      { m with games := Function.update m.games (ids n) (some record) }

/-- The maps after the updates that do not end with a failure, one after the other. -/
def ofUpdates (ids : Nat → GameId) (updates : List Update) : Maps :=
  (Update.lasting 0 updates).foldl (keep ids) empty

variable {ids : Nat → GameId} {saves : List (Nat × Save)}

/-- Under a name is the bot that was saved last under it. -/
theorem bots_foldl_keep (saves : List (Nat × Save)) (name : String) :
    (saves.foldl (keep ids) empty).bots name =
      ((saves.filterMap Save.bot?).filter fun bot => bot.name = name).getLast? := by
  induction saves using List.reverseRecOn with
  | nil => rfl
  | append_singleton saves save ih =>
      rw [List.foldl_append, List.foldl_cons, List.foldl_nil, List.filterMap_append]
      obtain ⟨n, bot | record⟩ := save
      · have hlast : [(n, Save.bot bot)].filterMap Save.bot? = [bot] := rfl
        rw [hlast, List.filter_append]
        by_cases hname : bot.name = name
        · simp [keep, hname]
        · simpa [keep, hname, Ne.symm hname] using ih
      · have hnone : [(n, Save.game record)].filterMap Save.bot? = [] := rfl
        rw [hnone, List.append_nil]
        exact ih

/-- Under an identifier is the game that was saved under it, if no other was. -/
theorem games_foldl_keep
    (hids : ((saves.filterMap Save.game?).map fun g => ids g.1).Nodup) (id : GameId)
    (record : GameRecord) :
    (saves.foldl (keep ids) empty).games id = some record ↔
      ∃ n, (n, record) ∈ saves.filterMap Save.game? ∧ ids n = id := by
  induction saves using List.reverseRecOn with
  | nil => simp [empty]
  | append_singleton saves save ih =>
      rw [List.foldl_append, List.foldl_cons, List.foldl_nil]
      rw [List.filterMap_append] at hids ⊢
      obtain ⟨n, bot | other⟩ := save
      · have hnone : [(n, Save.bot bot)].filterMap Save.game? = [] := rfl
        rw [hnone, List.append_nil] at hids ⊢
        exact ih hids
      · have hlast : [(n, Save.game other)].filterMap Save.game? = [(n, other)] := rfl
        rw [hlast] at hids ⊢
        rw [List.map_append, List.map_singleton, ← List.concat_eq_append,
          List.nodup_concat] at hids
        obtain ⟨hnew, hbefore⟩ := hids
        dsimp only [keep]
        by_cases hid : id = ids n
        · -- No game has been saved under this identifier before.
          subst hid
          rw [Function.update_self, Option.some.injEq]
          constructor
          · rintro rfl
            exact ⟨n, by simp, rfl⟩
          · rintro ⟨k, hmem, hk⟩
            rcases List.mem_append.mp hmem with hmem | hmem
            · exact absurd (List.mem_map.mpr ⟨_, hmem, hk⟩) hnew
            · obtain ⟨-, rfl⟩ := Prod.mk.inj (List.mem_singleton.mp hmem)
              rfl
        · rw [Function.update_of_ne hid, ih hbefore]
          have hne : ids n ≠ id := Ne.symm hid
          constructor
          · rintro ⟨k, hmem, hk⟩
            exact ⟨k, List.mem_append_left _ hmem, hk⟩
          · rintro ⟨k, hmem, hk⟩
            rcases List.mem_append.mp hmem with hmem | hmem
            · exact ⟨k, hmem, hk⟩
            · obtain ⟨rfl, -⟩ := Prod.mk.inj (List.mem_singleton.mp hmem)
              exact absurd hk hne

end Maps

namespace Ledger

variable {l : Ledger} {m : Maps} {ids : Nat → GameId} {name : String} {id : GameId}

/-! ## What is listed and what is found -/

theorem mem_botNames_iff : name ∈ l.botNames ↔ (l.bot? name).isSome = true := by
  rw [botNames, List.mem_mergeSort, bot?, List.find?_isSome]
  simp [eq_comm]

theorem mem_gameIds_iff : id ∈ l.gameIds ↔ (l.game? id).isSome = true := by
  rw [gameIds, game?, Option.isSome_map, List.find?_isSome]
  simp [eq_comm]

theorem pairwise_botNames (h : (l.bots.map StoredBot.name).Nodup) :
    l.botNames.Pairwise (· < ·) := by
  have hsorted : l.botNames.Pairwise fun a b => decide (a ≤ b) = true :=
    List.pairwise_mergeSort (by simpa using fun a b c => le_trans) (by simp [le_total]) _
  have hnodup : l.botNames.Nodup := (List.mergeSort_perm _ _).nodup_iff.mpr h
  refine (hsorted.and hnodup).imp ?_
  intro a b hab
  exact lt_of_le_of_ne (of_decide_eq_true hab.1) hab.2

theorem nodup_names_putBot (h : (l.bots.map StoredBot.name).Nodup) (bot : Bot) :
    ((l.putBot bot).bots.map StoredBot.name).Nodup := by
  rw [putBot, List.map_cons, List.nodup_cons]
  refine ⟨?_, ?_⟩
  · intro hmem
    obtain ⟨b, hb, hname⟩ := List.mem_map.mp hmem
    simp [hname] at hb
  · exact h.sublist (List.filter_sublist.map _)

/-! ## Saves, in the lists and in the maps -/

/-- The ledger keeps what the maps have, and it can be read back. -/
structure Holds (l : Ledger) (m : Maps) : Prop where
  bot : ∀ name, l.bot? name = (m.bots name).map fun bot =>
    ⟨name, bot.source, Binary.writeProgram bot.program⟩
  readable : ∀ name bot, m.bots name = some bot → bot.name = name ∧ bot.IsReadable
  game : ∀ id, l.game? id = m.games id
  names : (l.bots.map StoredBot.name).Nodup
  ids : l.gameIds.Nodup

theorem holds_empty : empty.Holds .empty where
  bot _ := rfl
  readable _ _ h := by cases h
  game _ := rfl
  names := .nil
  ids := .nil

theorem Holds.keep_bot (h : l.Holds m) (n : Nat) {bot : Bot} (hread : bot.IsReadable) :
    (Save.keep ids l (n, .bot bot)).Holds (m.keep ids (n, .bot bot)) where
  bot name := by
    by_cases hname : name = bot.name
    · subst hname
      simp [Save.keep, Maps.keep, bot?_putBot_self]
    · simp [Save.keep, Maps.keep, bot?_putBot_of_ne l bot hname, hname, h.bot]
  readable name other hother := by
    dsimp only [Maps.keep] at hother
    by_cases hname : name = bot.name
    · subst hname
      rw [Function.update_self, Option.some.injEq] at hother
      exact hother ▸ ⟨rfl, hread⟩
    · rw [Function.update_of_ne hname] at hother
      exact h.readable name other hother
  game id := h.game id
  names := nodup_names_putBot h.names bot
  ids := h.ids

theorem Holds.keep_game (h : l.Holds m) {n : Nat} {record : GameRecord}
    (hnew : ids n ∉ l.gameIds) :
    (Save.keep ids l (n, .game record)).Holds (m.keep ids (n, .game record)) where
  bot := h.bot
  readable := h.readable
  game id := by
    by_cases hid : id = ids n
    · subst hid
      simp [Save.keep, Maps.keep, game?_addGame_self hnew]
    · simp [Save.keep, Maps.keep, game?_addGame_of_ne (Ne.symm hid), hid, h.game]
  names := h.names
  ids := by
    rw [Save.keep, gameIds_addGame, ← List.concat_eq_append]
    exact h.ids.concat hnew

/-- Save after save, as long as programs can be read and identifiers are new. -/
theorem Holds.foldl_keep {saves : List (Nat × Save)} (h : l.Holds m)
    (hread : ∀ n bot, (n, Save.bot bot) ∈ saves → bot.IsReadable)
    (hids : (l.gameIds ++ (saves.filterMap Save.game?).map fun g => ids g.1).Nodup) :
    (saves.foldl (Save.keep ids) l).Holds (saves.foldl (Maps.keep ids) m) := by
  induction saves generalizing l m with
  | nil => exact h
  | cons save saves ih =>
      have hrest : ∀ n bot, (n, Save.bot bot) ∈ saves → bot.IsReadable :=
        fun n bot hmem => hread n bot (List.mem_cons_of_mem _ hmem)
      obtain ⟨n, bot | record⟩ := save
      · exact ih (h.keep_bot n (hread n bot List.mem_cons_self)) hrest hids
      · -- The identifier moves from those to come to those that are kept.
        have hsplit : (l.gameIds ++ ids n :: (saves.filterMap Save.game?).map
            fun g => ids g.1).Nodup := hids
        have hnew : ids n ∉ l.gameIds := by
          intro hmem
          rw [List.nodup_middle, List.nodup_cons] at hsplit
          exact hsplit.1 (List.mem_append_left _ hmem)
        refine ih (h.keep_game hnew) hrest ?_
        rw [Save.keep, gameIds_addGame, List.append_assoc]
        exact hsplit

end Ledger

/-! ## Questions -/

namespace LedgerStore

variable {s : LedgerStore} {m : Maps} {ids : Nat → GameId}

/-- Every question to the ledger is answered from the maps: with the bot of a name or
the game of an identifier, or that there is none; and with all names in ascending
order, and all identifiers, each once. -/
structure Answers (s : LedgerStore) (ids : Nat → GameId) (m : Maps) : Prop where
  loadBot : ∀ n name, (s.run ids n { requests := [.loadBot name] }).1 =
    match m.bots name with
    | some bot => .ok [.bot bot]
    | none => .error (.within s!"bot {name}" .notFound)
  loadGame : ∀ n id, (s.run ids n { requests := [.loadGame id] }).1 =
    match m.games id with
    | some record => .ok [.game (.ok record)]
    | none => .ok [.game (.error (.within s!"game {id.describe}" .notFound))]
  botNames : ∃ names,
    (∀ n, (s.run ids n { requests := [.botNames] }).1 = .ok [.names names]) ∧
    names.Pairwise (· < ·) ∧ ∀ name, name ∈ names ↔ (m.bots name).isSome = true
  gameIds : ∃ l,
    (∀ n, (s.run ids n { requests := [.gameIds] }).1 = .ok [.ids l]) ∧
    l.Nodup ∧ ∀ id, id ∈ l ↔ (m.games id).isSome = true

theorem answers_of_holds (hopen : s.isOpen = true) (h : s.ledger.Holds m) :
    s.Answers ids m where
  loadBot n name := by
    cases hbot : m.bots name with
    | none =>
        have hnone : s.ledger.bot? name = none := by
          rw [h.bot, hbot]
          rfl
        rw [run_request hopen]
        simp [Request.step, Request.unnumbered, Request.replying, Transaction.loadBot,
          Transaction.view, Transaction.start, hnone]
    | some bot =>
        obtain ⟨rfl, hread⟩ := h.readable name bot hbot
        have hkept := h.bot bot.name
        rw [hbot, Option.map_some] at hkept
        rw [run_loadBot hopen hkept, show Binary.readProgram _ = _ from hread]
  loadGame n id := by
    rw [run_request hopen, ← h.game]
    cases hgame : s.ledger.game? id <;>
      simp [Request.step, Request.unnumbered, Transaction.loadGame, Transaction.view,
        Transaction.start, hgame]
  botNames := by
    refine ⟨s.ledger.botNames, fun n => ?_, Ledger.pairwise_botNames h.names,
      fun name => ?_⟩
    · rw [run_request hopen]
      rfl
    · rw [Ledger.mem_botNames_iff, h.bot, Option.isSome_map]
  gameIds := by
    refine ⟨s.ledger.gameIds, fun n => ?_, h.ids, fun id => ?_⟩
    · rw [run_request hopen]
      rfl
    · rw [Ledger.mem_gameIds_iff, h.game]

end LedgerStore

/-! ## Histories -/

/-- A history of updates, each of which saves bots and games and may then fail, comes to
the maps that its updates without a failure make one after the other: every question is
answered from them. Nothing else fails. A name has the bot that was saved last under it
by these updates, and an identifier the game that one of them saved under it. -/
theorem LedgerStore.updates_refine_maps {ids : Nat → GameId} {s : LedgerStore}
    {updates : List Update} (hopen : s.isOpen = true) (hempty : s.ledger = .empty)
    (hbots : ∀ u ∈ updates, ∀ bot, .bot bot ∈ u.saves →
      (∃ source, compile source = .ok bot.program) ∧
        bot.program.size ≤ Binary.maxElements)
    (hids :
      ((List.range ((updates.flatMap Update.saves).foldl Save.next 0)).map ids).Nodup) :
    (∀ before u after, updates = before ++ u :: after →
      ∃ n s', useAll ids (0, s) (before.map fun u => .batch u.batch) = (n, s') ∧
        (s'.run ids n u.batch).1 = u.result n) ∧
    (useAll ids (0, s) (updates.map fun u => .batch u.batch)).2.Answers ids
      (Maps.ofUpdates ids updates) ∧
    (∀ name, (Maps.ofUpdates ids updates).bots name =
      (((Update.lasting 0 updates).filterMap Save.bot?).filter
        fun bot => bot.name = name).getLast?) ∧
    ∀ id record, (Maps.ofUpdates ids updates).games id = some record ↔
      ∃ n, (n, record) ∈ (Update.lasting 0 updates).filterMap Save.game? ∧
      ids n = id := by
  have hread : ∀ n bot, (n, Save.bot bot) ∈ Update.lasting 0 updates →
      bot.IsReadable := by
    intro n bot hmem
    obtain ⟨u, hu, hsave⟩ := Update.mem_saves_of_mem_lasting hmem
    obtain ⟨⟨source, hcompile⟩, hsize⟩ := hbots u hu bot hsave
    exact Bot.isReadable_of_compile hcompile hsize
  have hnew : (((Update.lasting 0 updates).filterMap Save.game?).map fun g =>
      ids g.1).Nodup := by
    have hsub := hids.sublist ((Update.numbers_lasting updates).map ids)
    rwa [List.map_map] at hsub
  have hholds : ((Update.lasting 0 updates).foldl (Save.keep ids) s.ledger).Holds
      (Maps.ofUpdates ids updates) := by
    rw [hempty]
    exact Ledger.holds_empty.foldl_keep hread hnew
  refine ⟨?_, ?_, fun name => Maps.bots_foldl_keep _ name,
    fun id record => Maps.games_foldl_keep hnew id record⟩
  · rintro before u after rfl
    have hopen' : (s.keepAll ids (Update.lasting 0 before)).isOpen = true := hopen
    refine ⟨_, _, useAll_updates hopen 0 before, ?_⟩
    rw [run_update hopen']
  · rw [useAll_updates hopen]
    exact answers_of_holds hopen hholds

/-- The theorem at three updates of which the second one fails. Its bot does not replace
the one of the first update, and the identifier of its game stays unknown. -/
theorem LedgerStore.updates_refine_maps_aborted :
    ∃ kept dropped : Bot, ∃ won drawn : GameRecord, kept.name = dropped.name ∧
      ∃ s, useAll GameId.mk (0, {})
        [.batch { requests := [.saveBot kept, .saveGame won] },
          .batch
            { requests := [.saveBot dropped, .saveGame won], abort := some .canceled },
          .batch { requests := [.saveGame drawn] }] = (3, s) ∧
        (s.run GameId.mk 3 { requests := [.loadBot kept.name] }).1 = .ok [.bot kept] ∧
        (s.run GameId.mk 3 { requests := [.loadGame ⟨0⟩] }).1 = .ok [.game (.ok won)] ∧
        (∃ context, (s.run GameId.mk 3 { requests := [.loadGame ⟨1⟩] }).1 =
          .ok [.game (.error (.within context .notFound))]) ∧
        (s.run GameId.mk 3 { requests := [.loadGame ⟨2⟩] }).1 =
          .ok [.game (.ok drawn)] := by
  let kept : Bot := ⟨"loop", ">", #[.plain .moveForward]⟩
  let dropped : Bot := ⟨"loop", "<", #[.plain .moveBack]⟩
  let won : GameRecord := ⟨"loop", "idle", 1, -1, #[⟨⟨10, false, 5⟩, ⟨false, true⟩, 4⟩]⟩
  let drawn : GameRecord := ⟨"idle", "loop", 0, 0, #[⟨⟨10, true, 5⟩, ⟨false, false⟩, 5⟩]⟩
  let updates : List Update := [⟨[.bot kept, .game won], none⟩,
    ⟨[.bot dropped, .game won], some .canceled⟩, ⟨[.game drawn], none⟩]
  have hbots : ∀ u ∈ updates, ∀ bot, .bot bot ∈ u.saves →
      (∃ source, compile source = .ok bot.program) ∧
        bot.program.size ≤ Binary.maxElements := by
    have hkept : compile ">" = .ok kept.program := by cbv
    have hdropped : compile "<" = .ok dropped.program := by cbv
    have hsaved : ∀ u ∈ updates, ∀ bot, .bot bot ∈ u.saves →
        bot = kept ∨ bot = dropped := by
      simp [updates]
    intro u hu bot hbot
    rcases hsaved u hu bot hbot with rfl | rfl
    · exact ⟨⟨_, hkept⟩, by decide⟩
    · exact ⟨⟨_, hdropped⟩, by decide⟩
  obtain ⟨-, hanswers, -⟩ :=
    @updates_refine_maps GameId.mk {} updates rfl rfl hbots (by decide)
  refine ⟨kept, dropped, won, drawn, rfl, _, Prod.ext rfl rfl, ?_, ?_, ?_, ?_⟩
  · exact hanswers.loadBot 3 "loop"
  · exact hanswers.loadGame 3 ⟨0⟩
  · exact ⟨_, hanswers.loadGame 3 ⟨1⟩⟩
  · exact hanswers.loadGame 3 ⟨2⟩

end TapeDuel
