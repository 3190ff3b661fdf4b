import TapeDuel.App.Jobs

/-!
# Work in a session

Work is done step by step, and a step that fails ends it; what was printed, logged
and kept until then stays. Two things are said here about single steps and put
together along `>>=`.

Most work leaves the ledgers alone and gives out no identifiers (`SparesLedgers`),
so it can be skipped when one asks what is on the shelf. What is left are the
transactions: `run_withLedger` says that one is made on the ledger in the place
that the options lead to, and on nothing else.
-/

namespace TapeDuel.App

open Log (Record)

namespace Work

variable {α β : Type}

/-! ## Steps -/

theorem run_bind (x : Work α) (f : α → Work β) (s : Session) :
    (x >>= f).run.run s =
      match x.run.run s with
      | (.ok a, s') => (f a).run.run s'
      | (.error failure, s') => (.error failure, s') := by
  rw [ExceptT.run_bind, StateT.run_bind]
  rcases x.run.run s with ⟨failure | a, s'⟩ <;> rfl

theorem run_bind_of_ok {x : Work α} {f : α → Work β} {s t : Session} {a : α}
    (h : x.run.run s = (.ok a, t)) : (x >>= f).run.run s = (f a).run.run t := by
  rw [run_bind, h]

theorem run_bind_of_error {x : Work α} {f : α → Work β} {s t : Session}
    {failure : Failure} (h : x.run.run s = (.error failure, t)) :
    (x >>= f).run.run s = (.error failure, t) := by
  rw [run_bind, h]

/-- Work that came through did so step by step. -/
theorem exists_of_run_bind {x : Work α} {f : α → Work β} {s s' : Session} {b : β}
    (h : (x >>= f).run.run s = (.ok b, s')) :
    ∃ a t, x.run.run s = (.ok a, t) ∧ (f a).run.run t = (.ok b, s') := by
  rw [run_bind] at h
  rcases hx : x.run.run s with ⟨failure | a, t⟩ <;> rw [hx] at h
  · cases h
  · exact ⟨a, t, rfl, h⟩

theorem run_get (s : Session) : (get : Work Session).run.run s = (.ok s, s) :=
  rfl

theorem run_ofExcept {result outcome : Except Failure α} (h : result = outcome)
    (s : Session) : (ofExcept result).run.run s = (outcome, s) := by
  rw [← h]
  rfl

theorem run_print (t : Text) (s : Session) :
    (print t).run.run s = (.ok (), { s with printed := t :: s.printed }) :=
  rfl

theorem run_log (records : List Record) (s : Session) :
    (log records).run.run s =
      (.ok (), { s with logged := records.reverse ++ s.logged }) :=
  rfl

/-! ## Work without ledgers -/

/-- Work that changes no ledger and gives out no identifier. -/
def SparesLedgers (x : Work α) : Prop :=
  ∀ s, (x.run.run s).2.shelf = s.shelf ∧ (x.run.run s).2.idsUsed = s.idsUsed

theorem SparesLedgers.of_run {x : Work α} (h : x.SparesLedgers) {s s' : Session}
    {result : Except Failure α} (hrun : x.run.run s = (result, s')) :
    s'.shelf = s.shelf ∧ s'.idsUsed = s.idsUsed := by
  have h := h s
  rw [hrun] at h
  exact h

theorem sparesLedgers_pure (a : α) : (pure a : Work α).SparesLedgers :=
  fun _ => ⟨rfl, rfl⟩

theorem sparesLedgers_ofExcept (result : Except Failure α) :
    (ofExcept result).SparesLedgers :=
  fun _ => ⟨rfl, rfl⟩

theorem sparesLedgers_print (t : Text) : (print t).SparesLedgers :=
  fun _ => ⟨rfl, rfl⟩

theorem sparesLedgers_log (records : List Record) : (log records).SparesLedgers :=
  fun _ => ⟨rfl, rfl⟩

theorem SparesLedgers.bind {x : Work α} {f : α → Work β} (hx : x.SparesLedgers)
    (hf : ∀ a, (f a).SparesLedgers) : (x >>= f).SparesLedgers := by
  intro s
  have h := hx s
  rw [run_bind]
  rcases hrun : x.run.run s with ⟨failure | a, t⟩ <;> rw [hrun] at h
  · exact h
  · obtain ⟨hshelf, hids⟩ := hf a t
    exact ⟨hshelf.trans h.1, hids.trans h.2⟩

end Work

namespace Surroundings

open Work

variable {w : Surroundings} {o : Options}

/-! ## Bots and rounds -/

theorem sparesLedgers_loadBots (references : List String) :
    (w.loadBots o references).SparesLedgers := by
  refine SparesLedgers.bind ?_ fun library =>
    (sparesLedgers_log _).bind fun _ => sparesLedgers_ofExcept _
  exact (sparesLedgers_ofExcept _).bind fun _ => sparesLedgers_pure _

theorem sparesLedgers_rounds : (w.rounds o).SparesLedgers :=
  (sparesLedgers_ofExcept _).bind fun _ => (sparesLedgers_ofExcept _).bind fun _ =>
    (sparesLedgers_log _).bind fun _ => sparesLedgers_pure _

theorem sparesLedgers_inspect (what : String) (globals : Script.Globals) :
    (inspect w o what globals).SparesLedgers := by
  have htap : (if o.tap then log (tapRecords what globals)
      else pure () : Work PUnit).SparesLedgers := by
    split
    · exact sparesLedgers_log _
    · exact sparesLedgers_pure _
  rw [inspect]
  split
  · exact (sparesLedgers_ofExcept _).bind fun _ => (sparesLedgers_log _).bind fun _ =>
      (sparesLedgers_print _).bind fun _ => (sparesLedgers_ofExcept _).bind fun _ => htap
  · exact htap

theorem run_inspect_of_no_script (hscript : o.script = "") (htap : o.tap = false)
    (what : String) (globals : Script.Globals) (s : Session) :
    (inspect w o what globals).run.run s = (.ok (), s) := by
  rw [inspect, if_neg (not_not_intro hscript), htap]
  rfl

theorem run_loadBots {proxy : Text × List Record} {references : List String}
    {bots : List Bot} (hproxy : w.proxy o = .ok proxy)
    (hload : (Bot.loadAll ⟨w.file, w.web⟩ references).1 = .ok bots) (s : Session) :
    ∃ logged, (w.loadBots o references).run.run s = (.ok bots, { s with logged }) := by
  have hlibrary : (w.library o).run.run s = (.ok ⟨w.file, w.web⟩, s) := by
    rw [library, run_bind_of_ok (run_ofExcept hproxy s)]
    rfl
  rw [loadBots, run_bind_of_ok hlibrary, run_bind_of_ok (run_log _ s),
    run_ofExcept hload]
  exact ⟨_, rfl⟩

/-- The bots that were loaded are those of the library, and the proxy was settled. -/
theorem loadAll_of_run_loadBots {references : List String} {bots : List Bot}
    {s s' : Session} (h : (w.loadBots o references).run.run s = (.ok bots, s')) :
    (∃ proxy, w.proxy o = .ok proxy) ∧
      (Bot.loadAll ⟨w.file, w.web⟩ references).1 = .ok bots := by
  obtain ⟨library, _, hlibrary, h⟩ := exists_of_run_bind h
  obtain ⟨proxy, _, hproxy, hlibrary⟩ := exists_of_run_bind hlibrary
  cases hlibrary
  obtain ⟨_, _, -, h⟩ := exists_of_run_bind h
  exact ⟨⟨proxy, congrArg Prod.fst hproxy⟩, congrArg Prod.fst h⟩

/-- The rounds that the settings ask for. -/
def Configures (w : Surroundings) (o : Options) (rounds : Rounds) : Prop :=
  ∃ steps tapes, maxSteps o w.loader = .ok steps ∧ tapeRange o w.loader = .ok tapes ∧
    (roundSequence tapes steps).1 = rounds

theorem run_rounds {rounds : Rounds} (h : w.Configures o rounds) (s : Session) :
    ∃ logged, (w.rounds o).run.run s = (.ok rounds, { s with logged }) := by
  obtain ⟨steps, tapes, hsteps, htapes, rfl⟩ := h
  rw [Surroundings.rounds, run_bind_of_ok (run_ofExcept hsteps s),
    run_bind_of_ok (run_ofExcept htapes s)]
  dsimp only
  rw [run_bind_of_ok (run_log _ s)]
  exact ⟨_, rfl⟩

theorem configures_of_run_rounds {rounds : Rounds} {s s' : Session}
    (h : (w.rounds o).run.run s = (.ok rounds, s')) : w.Configures o rounds := by
  obtain ⟨steps, _, hsteps, h⟩ := exists_of_run_bind h
  obtain ⟨tapes, _, htapes, h⟩ := exists_of_run_bind h
  obtain ⟨_, _, -, h⟩ := exists_of_run_bind h
  cases h
  exact ⟨steps, tapes, congrArg Prod.fst hsteps, congrArg Prod.fst htapes, rfl⟩

/-! ## Transactions -/

/-- With these ledgers there, the options lead to a place. -/
def FindsLedger (w : Surroundings) (o : Options) (shelf : Shelf) (place : LedgerPlace) :
    Prop :=
  ∃ path, ledgerPath o w.loader = .ok path ∧ path.isEmpty = false ∧
    w.ledgerPlace shelf (path.toString?.getD "") = .ok place

/-- Work with the ledger is a transaction on the ledger in its place. -/
theorem run_withLedger {α : Type} {s : Session} {place : LedgerPlace}
    (h : w.FindsLedger o s.shelf place) (step : Transaction.Step α) :
    ∃ logged, (w.withLedger o step).run.run s =
      ((s.shelf.update place step).1,
        { s with logged, shelf := (s.shelf.update place step).2 }) := by
  obtain ⟨path, hpath, hempty, hplace⟩ := h
  refine ⟨openedRecord (path.toString?.getD "") :: s.logged, ?_⟩
  have hthere : (w.ledgerPlace s.shelf (path.toString?.getD "")).mapError
      (LedgerFlaw.failure (path.toString?.getD "")) = .ok place := by
    rw [hplace]
    rfl
  rw [withLedger, run_bind_of_ok (run_ofExcept hpath s)]
  simp only [hempty]
  rw [if_neg Bool.false_ne_true, run_bind_of_ok (run_get s),
    run_bind_of_ok (run_ofExcept hthere s)]
  rfl

end Surroundings

end TapeDuel.App
