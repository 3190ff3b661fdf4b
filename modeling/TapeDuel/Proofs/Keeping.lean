import TapeDuel.Ledger.Request
import TapeDuel.Proofs.ProgramCodec

/-!
# What the ledger keeps

Keeping a bot changes what is kept under its name and nothing else, and keeping
a game adds one game. A game and its rounds are kept apart, so that the game
comes back whole takes that its identifier is new: then no round is there under
it, the rounds that are added are the only ones, and their places put them in
their old order (`game?_addGame_self`).

Everything else that is asked of a ledger leaves the bot of a name alone. So as
long as nobody saves a bot of that name, what was committed is found again
through any history of transactions, failed ones and reopened ledgers included
(`LedgerStore.bot?_useAll`). Whether it can be read is another matter: a program
is written at any length, but only read up to `maxElements` instructions.
-/

namespace TapeDuel

/-! ## Compiled bots -/

namespace Source

/-- What a source denotes does not depend on its name, which only appears in
diagnostics. -/
theorem parseFrom_eq_ok {s : Source} (s' : Source) {runes : List Text} {r : Reading}
    {b : Block} (h : s.parseFrom runes r = .ok b) : s'.parseFrom runes r = .ok b := by
  induction runes generalizing r with
  | nil =>
      rw [parseFrom] at h ⊢
      cases hopened : r.opened with
      | nil =>
          rw [hopened] at h
          exact h
      | cons o opened =>
          rw [hopened] at h
          cases h
  | cons rune rest ih =>
      rw [parseFrom] at h ⊢
      cases hread : r.read rune rest with
      | error complaint =>
          rw [hread] at h
          cases h
      | ok r' =>
          rw [hread] at h
          exact ih h

end Source

namespace Bot

variable {name : String} {source : Text} {bot : Bot}

theorem new_eq_ok_iff :
    new name source = .ok bot ↔
      bot.name = name ∧ bot.source = source ∧ compile source = .ok bot.program := by
  have hname : ∀ p, Source.compile ⟨name, source⟩ = .ok p ↔ compile source = .ok p := by
    intro p
    rw [compile, Source.compile_eq_ok_iff, Source.compile_eq_ok_iff]
    exact exists_congr fun b => and_congr_left fun _ =>
      ⟨Source.parseFrom_eq_ok _, Source.parseFrom_eq_ok _⟩
  rw [new]
  obtain ⟨botName, botSource, program⟩ := bot
  cases hcompile : Source.compile ⟨name, source⟩ with
  | error problems =>
      constructor
      · rintro ⟨⟩
      · rintro ⟨-, -, h⟩
        rw [(hname _).mpr h] at hcompile
        cases hcompile
  | ok p =>
      rw [(hname p).mp hcompile]
      constructor
      · rintro ⟨⟩
        exact ⟨rfl, rfl, rfl⟩
      · rintro ⟨rfl, rfl, ⟨⟩⟩
        rfl

end Bot

namespace Ledger

/-! ## Bots -/

section Bots

variable (l : Ledger) (bot : Bot) (id : GameId) (record : GameRecord)

theorem bot?_putBot_self :
    (l.putBot bot).bot? bot.name =
      some ⟨bot.name, bot.source, Binary.writeProgram bot.program⟩ := by
  simp [bot?, putBot]

theorem bot?_putBot_of_ne {name : String} (h : name ≠ bot.name) :
    (l.putBot bot).bot? name = l.bot? name := by
  have hfilter : ∀ b : StoredBot, b.name = name → b.name ≠ bot.name := by
    rintro b rfl
    exact h
  rw [bot?, putBot, List.find?_cons_of_neg (by simpa using h.symm), List.find?_filter,
    bot?]
  congr 1
  funext b
  by_cases hb : b.name = name
  · simp [hb, h]
  · simp [hb]

theorem bot?_addGame (name : String) :
    (l.addGame id record).bot? name = l.bot? name :=
  rfl

end Bots

/-! ## Games -/

section Games

variable {l : Ledger} {id : GameId} {record : GameRecord}

theorem gameIds_putBot (bot : Bot) : (l.putBot bot).gameIds = l.gameIds :=
  rfl

theorem gameIds_addGame : (l.addGame id record).gameIds = l.gameIds ++ [id] := by
  simp [gameIds, addGame, storedGame]

theorem map_round_storedRounds :
    (storedRounds id record).map StoredRound.round = record.result.rounds.toList := by
  refine List.ext_getElem (by simp [storedRounds]) fun k h h' => ?_
  simp [storedRounds]

/-- The rounds of a game are kept in the order of their places. -/
theorem sorted_storedRounds :
    (storedRounds id record).Pairwise fun r r' => r.place ≤ r'.place := by
  rw [List.pairwise_iff_getElem]
  intro i j hi hj hij
  simp only [storedRounds, List.getElem_mapIdx]
  exact Nat.le_of_lt hij

theorem filter_storedRounds {id' : GameId} :
    (storedRounds id record).filter (fun r => r.game = id') =
      if id = id' then storedRounds id record else [] := by
  have hgame : ∀ r ∈ storedRounds id record, r.game = id := by
    intro r hr
    obtain ⟨_, _, rfl⟩ := List.mem_mapIdx.mp hr
    rfl
  split
  · next h =>
      exact List.filter_eq_self.mpr fun r hr => by simpa [h] using hgame r hr
  · next h =>
      exact List.filter_eq_nil_iff.mpr fun r hr => by simpa [hgame r hr] using h

/-- A game under a new identifier has the rounds that come with it. -/
theorem roundsOf_addGame_self (hnew : id ∉ l.gameIds) :
    (l.addGame id record).roundsOf id = record.result.rounds.toList := by
  have hnone : l.rounds.filter (fun r => r.game = id) = [] := by
    refine List.filter_eq_nil_iff.mpr fun r hr hgame => hnew ?_
    rw [← of_decide_eq_true hgame]
    exact l.owned r hr
  have hrounds : (l.addGame id record).rounds.filter (fun r => r.game = id) =
      storedRounds id record := by
    rw [addGame, List.filter_append, hnone, filter_storedRounds, if_pos rfl]
    rfl
  rw [roundsOf, hrounds, List.mergeSort_of_pairwise, map_round_storedRounds]
  exact sorted_storedRounds.imp decide_eq_true

theorem roundsOf_addGame_of_ne {id' : GameId} (h : id ≠ id') :
    (l.addGame id record).roundsOf id' = l.roundsOf id' := by
  rw [roundsOf, addGame, List.filter_append, filter_storedRounds, if_neg h,
    List.append_nil, roundsOf]

/-- A game that was kept under a new identifier comes back as it was. -/
theorem game?_addGame_self (hnew : id ∉ l.gameIds) :
    (l.addGame id record).game? id = some record := by
  have hfind : (l.addGame id record).games.find? (fun g => g.id = id) =
      some (storedGame id record) := by
    have hnone : l.games.find? (fun g => g.id = id) = none := by
      refine List.find?_eq_none.mpr fun g hg hid => hnew ?_
      rw [← of_decide_eq_true hid]
      exact List.mem_map_of_mem hg
    rw [addGame, List.find?_append, hnone]
    simp [storedGame]
  rw [game?, hfind, Option.map_some, roundsOf_addGame_self hnew]
  rfl

theorem game?_addGame_of_ne {id' : GameId} (h : id ≠ id') :
    (l.addGame id record).game? id' = l.game? id' := by
  have hfind : (l.addGame id record).games.find? (fun g => g.id = id') =
      l.games.find? (fun g => g.id = id') := by
    rw [addGame, List.find?_append, List.find?_cons_of_neg]
    · simp
    · simp [storedGame, h]
  rw [game?, hfind, roundsOf_addGame_of_ne h, game?]

end Games

end Ledger

/-! ## Steps that leave a view of the ledger as it was -/

namespace Transaction

variable {α β γ : Type} {seen : Ledger → γ}

/-- A step after which a view of the ledger is the same. The ledger outside is
never touched, and no step ends its transaction. -/
def Leaves (seen : Ledger → γ) (step : Step α) : Prop :=
  ∀ t, seen (step t).2.current = seen t.current ∧
    (step t).2.stored = t.stored ∧ (step t).2.isDone = t.isDone

theorem leaves_view (f : Ledger → Except Failure α) : Leaves seen (view f) := by
  intro t
  rw [view]
  split <;> exact ⟨rfl, rfl, rfl⟩

theorem leaves_change {context : String} {f : Ledger → Ledger}
    (hf : ∀ l, seen (f l) = seen l) : Leaves seen (change context f) := by
  intro t
  rw [change]
  split
  · exact ⟨rfl, rfl, rfl⟩
  · exact ⟨hf t.current, rfl, rfl⟩

theorem Leaves.andThen {first : Step α} {next : α → Step β} (hfirst : Leaves seen first)
    (hnext : ∀ a, Leaves seen (next a)) :
    Leaves seen (Transaction.andThen first next) := by
  intro t
  have h := hfirst t
  rw [Transaction.andThen]
  rcases hstep : first t with ⟨failure | a, t'⟩ <;> rw [hstep] at h
  · exact h
  · obtain ⟨hseen, hstored, hdone⟩ := hnext a t'
    exact ⟨hseen.trans h.1, hstored.trans h.2.1, hdone.trans h.2.2⟩

end Transaction

namespace Request

open Transaction

variable {γ : Type} {seen : Ledger → γ} {ids : Nat → GameId} {n : Nat}

/-- The name under which a request saves a bot, if it does. -/
def saves? : Request → Option String
  | saveSource name _ => some name
  | saveBot bot => some bot.name
  | _ => none

theorem leaves_replying {α : Type} {step : Step α} (h : Leaves seen step)
    (reply : α → Reply) : Leaves seen (replying step reply) := by
  intro t
  have h := h t
  rw [replying]
  rcases hstep : step t with ⟨failure | a, t'⟩ <;> rw [hstep] at h <;> exact h

theorem leaves_unnumbered {step : Step Reply} (h : Leaves seen step) :
    Leaves seen (unnumbered n step) := by
  intro t
  have h := h t
  rw [unnumbered]
  rcases hstep : step t with ⟨failure | a, t'⟩ <;> rw [hstep] at h <;> exact h

theorem leaves_keep (hgame : ∀ id record l, seen (Ledger.addGame l id record) = seen l)
    (record : GameRecord) : Leaves seen (keep ids record n) := by
  intro t
  have h : Leaves seen (Transaction.saveGame (ids n) record) :=
    leaves_change (hgame (ids n) record)
  have h := h t
  rw [keep]
  rcases hstep : Transaction.saveGame (ids n) record t with ⟨failure | a, t'⟩ <;>
    rw [hstep] at h <;> exact h

/-- A request leaves what neither a game nor the bot that it saves changes. -/
theorem leaves_step {r : Request}
    (hbot : ∀ bot : Bot, r.saves? = some bot.name → ∀ l, seen (l.putBot bot) = seen l)
    (hgame : ∀ id record l, seen (Ledger.addGame l id record) = seen l) :
    Leaves seen (r.step ids n) := by
  cases r with
  | saveSource name source =>
      refine leaves_unnumbered fun t => ?_
      cases hnew : Bot.new name source with
      | error failure => exact ⟨rfl, rfl, rfl⟩
      | ok bot =>
          have hname := congrArg some (Bot.new_eq_ok_iff.mp hnew).1.symm
          exact leaves_replying (leaves_change (hbot bot hname)) _ t
  | saveBot bot =>
      exact leaves_unnumbered (leaves_replying (leaves_change (hbot bot rfl)) _)
  | loadBot name => exact leaves_unnumbered (leaves_replying (leaves_view _) _)
  | botNames => exact leaves_unnumbered (leaves_replying (leaves_view _) _)
  | saveGame record => exact leaves_keep hgame record
  | play a b rounds =>
      refine (leaves_view _).andThen fun botA => (leaves_view _).andThen fun botB t => ?_
      cases Game.play .never botA.program botB.program rounds with
      | error failure => exact ⟨rfl, rfl, rfl⟩
      | ok result => exact leaves_keep hgame _ t
  | loadGame id => exact leaves_unnumbered fun t => leaves_view _ t
  | gameIds => exact leaves_unnumbered (leaves_replying (leaves_view _) _)
  | standings => exact leaves_unnumbered (leaves_replying (leaves_view _) _)

/-- Requests that each leave a view leave it one after the other, also when one of
them fails. -/
theorem leaves_steps {requests : List Request}
    (h : ∀ r ∈ requests, ∀ n, Leaves seen (r.step ids n)) (n : Nat) (t : Transaction) :
    seen (steps ids n requests t).2.2.current = seen t.current ∧
      (steps ids n requests t).2.2.stored = t.stored ∧
      (steps ids n requests t).2.2.isDone = t.isDone := by
  induction requests generalizing n t with
  | nil => exact ⟨rfl, rfl, rfl⟩
  | cons r rest ih =>
      obtain ⟨hr, hrest⟩ := List.forall_mem_cons.mp h
      have hr := hr n t
      rw [steps]
      rcases hstep : r.step ids n t with ⟨failure | ⟨reply, n'⟩, t'⟩ <;> rw [hstep] at hr
      · exact hr
      · obtain ⟨hseen, hstored, hdone⟩ := ih hrest n' t'
        have hall := And.intro (hseen.trans hr.1)
          (And.intro (hstored.trans hr.2.1) (hdone.trans hr.2.2))
        dsimp only
        rcases hsteps : steps ids n' rest t' with ⟨failure | replies, n'', t''⟩ <;>
          rw [hsteps] at hall <;> exact hall

/-- The ledger outside stays as it is until the transaction ends, and requests do
not end it. -/
theorem outside_steps (ids : Nat → GameId) (requests : List Request) (n : Nat)
    (t : Transaction) :
    (steps ids n requests t).2.2.stored = t.stored ∧
      (steps ids n requests t).2.2.isDone = t.isDone := by
  have hleaves : ∀ r ∈ requests, ∀ n, Leaves (fun _ => ()) (r.step ids n) :=
    fun _ _ _ => leaves_step (fun _ _ _ => rfl) fun _ _ _ => rfl
  exact (leaves_steps hleaves n t).2

theorem bot?_steps (ids : Nat → GameId) {name : String} {requests : List Request}
    (h : ∀ r ∈ requests, r.saves? ≠ some name) (n : Nat) (t : Transaction) :
    (steps ids n requests t).2.2.current.bot? name = t.current.bot? name := by
  have hleaves : ∀ r ∈ requests, ∀ n, Leaves (fun l => l.bot? name) (r.step ids n) := by
    intro r hr n
    refine leaves_step (fun bot hbot l => l.bot?_putBot_of_ne bot ?_) fun _ _ _ => rfl
    rintro rfl
    exact h r hr hbot
  exact (leaves_steps hleaves n t).1

/-- Where a list of requests succeeds, so does each part of it. -/
theorem exists_of_steps_append {before after : List Request} {n' : Nat}
    {t t' : Transaction} {replies : List Reply}
    (h : steps ids n (before ++ after) t = (.ok replies, n', t')) :
    ∃ first n₁ t₁ second, steps ids n before t = (.ok first, n₁, t₁) ∧
      steps ids n₁ after t₁ = (.ok second, n', t') := by
  induction before generalizing n t replies with
  | nil => exact ⟨[], n, t, replies, rfl, h⟩
  | cons r before ih =>
      rw [List.cons_append, steps] at h
      rcases hstep : r.step ids n t with ⟨failure | ⟨reply, m⟩, u⟩ <;> rw [hstep] at h
      · cases h
      · dsimp only at h
        rcases hrest : steps ids m (before ++ after) u with ⟨failure | rest, k, v⟩ <;>
          rw [hrest] at h <;> cases h
        obtain ⟨first, n₁, t₁, second, hfirst, hsecond⟩ := ih hrest
        refine ⟨reply :: first, n₁, t₁, second, ?_, hsecond⟩
        rw [steps, hstep]
        dsimp only
        rw [hfirst]

end Request

/-! ## Transactions and what comes after them -/

/-- All that a batch asks for is done, and it fails by itself after its commit if
it does: what it changed stays. -/
def Batch.Lasts (b : Batch) (ids : Nat → GameId) (n : Nat) (l : Ledger) : Prop :=
  (∃ replies, (Request.steps ids n b.requests (.start l)).1 = .ok replies) ∧
    (b.commits = true ∨ b.abort = none)

namespace LedgerStore

variable {ids : Nat → GameId} {n : Nat} {s : LedgerStore} {b : Batch} {name : String}

theorem run_of_lasts (hopen : s.isOpen = true) (h : b.Lasts ids n s.ledger) :
    (s.run ids n b).2.2 =
      { s with
        ledger := (Request.steps ids n b.requests (.start s.ledger)).2.2.current } := by
  obtain ⟨⟨replies, hreplies⟩, hlasts⟩ := h
  obtain ⟨-, hdone⟩ := Request.outside_steps ids b.requests n (.start s.ledger)
  rcases hsteps : Request.steps ids n b.requests (.start s.ledger) with ⟨result, n', t⟩
  rw [hsteps] at hreplies hdone
  cases hreplies
  replace hdone : t.isDone = false := hdone
  rw [run, if_pos hopen, Batch.run, hsteps]
  cases habort : b.abort <;> cases hcommits : b.commits <;>
    simp_all [Transaction.commit, Transaction.settle, Transaction.rollback]

theorem run_of_not_lasts (h : ¬ b.Lasts ids n s.ledger) : (s.run ids n b).2.2 = s := by
  rw [run]
  split
  · obtain ⟨hstored, -⟩ := Request.outside_steps ids b.requests n (.start s.ledger)
    rcases hsteps : Request.steps ids n b.requests (.start s.ledger) with
      ⟨failure | replies, n', t⟩ <;>
      rw [hsteps] at hstored <;> replace hstored : t.stored = s.ledger := hstored
    · simp only [Batch.run, hsteps, Transaction.settle, Transaction.rollback, hstored]
    · have hkept : b.commits = false ∧ ∃ failure, b.abort = some failure := by
        simpa [Batch.Lasts, hsteps, Option.ne_none_iff_exists'] using h
      obtain ⟨hcommits, failure, habort⟩ := hkept
      simp [Batch.run, hsteps, hcommits, habort, Transaction.settle,
        Transaction.rollback, hstored]
  · rfl

/-- What is done with a ledger. -/
inductive Use where
  | batch (b : Batch)
  | close
  | reopen

/-- No bot is saved under a name. -/
def Use.Spares (name : String) : Use → Prop
  | batch b => ∀ r ∈ b.requests, r.saves? ≠ some name
  | _ => True

/-- The ledger after a use of it, with the next free number of a game. -/
def use (ids : Nat → GameId) : Nat × LedgerStore → Use → Nat × LedgerStore
  | (n, s), .batch b => (s.run ids n b).2
  | (n, s), .close => (n, s.close)
  | (n, s), .reopen => (n, s.reopen)

/-- The ledger after one use of it after the other. -/
def useAll (ids : Nat → GameId) (s : Nat × LedgerStore) (uses : List Use) :
    Nat × LedgerStore :=
  uses.foldl (use ids) s

theorem isKept_run : (s.run ids n b).2.2.isKept = s.isKept := by
  rw [run]
  split <;> rfl

/-- A transaction that saves no bot under a name keeps that of the name, whether it
is committed or not. -/
theorem bot?_run (h : ∀ r ∈ b.requests, r.saves? ≠ some name) :
    (s.run ids n b).2.2.ledger.bot? name = s.ledger.bot? name := by
  by_cases hopen : s.isOpen = true
  · by_cases hlasts : b.Lasts ids n s.ledger
    · rw [run_of_lasts hopen hlasts]
      exact Request.bot?_steps ids h n (.start s.ledger)
    · rw [run_of_not_lasts hlasts]
  · rw [run, if_neg hopen]

theorem bot?_use (ids : Nat → GameId) {s : Nat × LedgerStore} {u : Use}
    (h : u.Spares name) (hkept : s.2.isKept = true ∨ u ≠ .reopen) :
    (use ids s u).2.ledger.bot? name = s.2.ledger.bot? name ∧
      (use ids s u).2.isKept = s.2.isKept := by
  cases u with
  | batch b => exact ⟨bot?_run h, isKept_run⟩
  | close => exact ⟨rfl, rfl⟩
  | reopen =>
      have hkept : s.2.isKept = true := hkept.resolve_right fun hne => hne rfl
      refine ⟨?_, rfl⟩
      simp only [use, reopen, hkept, if_true]

theorem bot?_useAll (ids : Nat → GameId) {s : Nat × LedgerStore} {uses : List Use}
    (h : ∀ u ∈ uses, u.Spares name) (hkept : s.2.isKept = true ∨ Use.reopen ∉ uses) :
    (useAll ids s uses).2.ledger.bot? name = s.2.ledger.bot? name := by
  induction uses generalizing s with
  | nil => rfl
  | cons u uses ih =>
      obtain ⟨hu, huses⟩ := List.forall_mem_cons.mp h
      have hfirst : s.2.isKept = true ∨ u ≠ .reopen :=
        hkept.imp_right fun hnot heq => hnot (heq ▸ List.mem_cons_self)
      obtain ⟨hbot, hsame⟩ := bot?_use ids hu hfirst
      have hrest : (use ids s u).2.isKept = true ∨ Use.reopen ∉ uses := by
        rw [hsame]
        exact hkept.imp_right fun hnot hmem => hnot (List.mem_cons_of_mem u hmem)
      exact (ih huses hrest).trans hbot

end LedgerStore

end TapeDuel
