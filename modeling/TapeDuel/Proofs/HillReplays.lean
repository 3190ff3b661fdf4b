import TapeDuel.Proofs.Defaults
import TapeDuel.Proofs.GameIds
import TapeDuel.Proofs.PlayedGames
import TapeDuel.Proofs.Replays

/-!
# Recorded tournaments

No two bots of a tournament have the same name, so all of them are left in the ledger
that it is recorded in, with all of its games, each under an identifier of its own.
If none of the programs is too long to be read back, everything can be: every record
is the one that was reported, its bots are the two that have played, and the recorded
rounds are played again to the recorded result, step for step. So a replay of any of
these games reports that no round differs (`Restored`), for as long as nothing else
is recorded; and a replay records nothing, so they can follow each other
(`run_forM_replay`).

What happens after the games are played does not depend on how they were scheduled
(`settle`). So this is said of the job as it runs, one game after the other, and of
every other schedule of its games.
-/

namespace TapeDuel

variable {l : Ledger} {bots : List Bot} {rounds : Rounds} {g : GameRecord} {id : GameId}

/-! ## Bots and games of a tournament -/

/-- The players of a game are two of the bots. -/
theorem Tournament.IsPlayed.exists_bots (h : IsPlayed (bots.map Bot.entry) rounds g) :
    ∃ a ∈ bots, ∃ b ∈ bots, a.name = g.a ∧ b.name = g.b ∧
      Game.play .never a.program b.program rounds = .ok g.result := by
  obtain ⟨pairing, hgame⟩ := h.exists_pairing
  obtain ⟨_, _, result, ha, hb, hplay, rfl⟩ := record?_eq_some_iff.mp hgame
  rw [List.getElem?_toArray] at ha hb
  obtain ⟨a, hmemA, rfl⟩ := List.mem_map.mp (List.mem_of_getElem? ha)
  obtain ⟨b, hmemB, rfl⟩ := List.mem_map.mp (List.mem_of_getElem? hb)
  exact ⟨a, hmemA, b, hmemB, rfl, rfl, hplay⟩

/-- Bots of different names do not get into each other's way. -/
theorem Ledger.keeps_recorded_of_nodup (hnames : (bots.map Bot.name).Nodup) {bot : Bot}
    (hbot : bot ∈ bots) (games : List (GameId × GameRecord)) :
    (l.recorded bots games).Keeps bot := by
  obtain ⟨before, after, rfl⟩ := List.append_of_mem hbot
  refine keeps_recorded (fun other hother heq => ?_) games
  rw [List.map_append, List.map_cons, List.nodup_middle, List.nodup_cons,
    List.mem_append, not_or] at hnames
  exact hnames.1.2 (heq ▸ List.mem_map_of_mem hother)

/-- A tournament that was logged and came through is the tournament. -/
theorem Tournament.eq_play_of_playLogged {canceled : Bool} {span : Log.Span}
    {parallelism : Int} {entries : List Entry} {report : Report} {outcome : Outcome}
    {records : List Log.Record}
    (h : playLogged canceled span parallelism entries rounds report = (outcome, records))
    {standings : List Standing} (hok : outcome.standings = .ok standings) :
    outcome = play canceled parallelism entries rounds report := by
  rw [playLogged] at h
  dsimp only at h
  split at h <;> cases h
  · cases hok
  · rfl

theorem Tournament.exists_playLogged {canceled : Bool} (span : Log.Span)
    {parallelism : Int} {entries : List Entry} {report : Report}
    {standings : List Standing}
    (hok : (play canceled parallelism entries rounds report).standings = .ok standings) :
    ∃ records, playLogged canceled span parallelism entries rounds report =
      (play canceled parallelism entries rounds report, records) := by
  rw [playLogged]
  simp only [hok]
  exact ⟨_, rfl⟩

namespace App.Surroundings

open Work

variable {w : Surroundings} {o : Options} {s s' : Session} {place : String} {a b : Bot}
  {outcome : Tournament.Outcome} {games : List GameRecord}

/-! ## What is left of a game -/

/-- With this ledger in a place, a game and both of its bots can be read back, and the
game is played again to the recorded result; whoever asks for its replay is told that
no round differs. -/
structure Restored (l : Ledger) (place : String) (id : GameId) (g : GameRecord)
    (a b : Bot) : Prop where
  game : l.update (Transaction.loadGame id) = (.ok g, l)
  botA : l.update (Transaction.loadBot g.a) = (.ok a, l)
  botB : l.update (Transaction.loadBot g.b) = (.ok b, l)
  play : Game.play .never a.program b.program
    (.listed (g.result.rounds.toList.map RoundRecord.params)) = .ok g.result
  replays : ∀ (w : Surroundings) (o : Options) (t : Session) (idText : String),
    t.shelf.get (some place) = l → w.FindsLedger o t.shelf (some place) →
      GameId.read idText = .ok id → w.Replays o idText t g a b

/-- Two compiled bots that are kept and short restore a game that they have played. -/
theorem restored_of_keeps (hgame : l.game? id = some g) (hnameA : a.name = g.a)
    (hnameB : b.name = g.b) (hkeepsA : l.Keeps a) (hkeepsB : l.Keeps b)
    (hcompiledA : compile a.source = .ok a.program)
    (hcompiledB : compile b.source = .ok b.program)
    (hagain : PlaysAgain a b rounds g.result) : Restored l place id g a b := by
  have hcanonicalA := canonical_of_compile hcompiledA
  have hcanonicalB := canonical_of_compile hcompiledB
  have hsizeA : a.program.size < 2 ^ 63 := Nat.lt_of_le_of_lt hagain.shortA (by decide)
  have hsizeB : b.program.size < 2 ^ 63 := Nat.lt_of_le_of_lt hagain.shortB (by decide)
  have hloadA :=
    Transaction.loadBot_of_keeps (t := .start l) rfl hkeepsA hcanonicalA hsizeA
  have hloadB :=
    Transaction.loadBot_of_keeps (t := .start l) rfl hkeepsB hcanonicalB hsizeB
  rw [if_pos hagain.shortA, hnameA] at hloadA
  rw [if_pos hagain.shortB, hnameB] at hloadB
  refine ⟨Ledger.update_of_view (Transaction.loadGame_of_game? rfl hgame),
    Ledger.update_of_view hloadA, Ledger.update_of_view hloadB,
    (Game.play_recorded hagain.play _ _).trans hagain.play, ?_⟩
  intro w o t idText hsame hfind hid
  subst hsame
  exact (replay_of_keeps hid hfind hgame hnameA hnameB hkeepsA hkeepsB hcanonicalA hsizeA
    hcanonicalB hsizeB hagain.play hagain.play).1 hagain

/-- Restored games are replayed one after the other: no replay stands in the way of
the next. -/
theorem run_forM_replay {idTexts : List String}
    (hrestored : ∀ idText ∈ idTexts, ∃ id g a b, GameId.read idText = .ok id ∧
      Restored l place id g a b)
    (hscript : o.script = "") (hfind : ∀ shelf, w.FindsLedger o shelf (some place))
    (hledger : s.shelf.get (some place) = l) :
    ∃ u, (idTexts.forM (replay w o)).run.run s = (.ok (), u) ∧ s.SameLedgers u := by
  induction idTexts generalizing s with
  | nil => exact ⟨s, rfl, fun _ => rfl⟩
  | cons idText idTexts ih =>
      obtain ⟨⟨id, g, a, b, hid, hfirst⟩, hothers⟩ := List.forall_mem_cons.mp hrestored
      have hreplays := hfirst.replays w o s idText hledger (hfind _) hid
      have hok := hreplays.succeeds hscript
      have hsame := hreplays.sameLedgers
      rcases hrun : (replay w o idText).run.run s with ⟨result, t⟩
      rw [hrun] at hok hsame
      cases hok
      obtain ⟨u, hrest, hsame'⟩ := ih hothers ((hsame (some place)).trans hledger)
      have hcons : (idText :: idTexts).forM (replay w o) =
          replay w o idText >>= fun _ => idTexts.forM (replay w o) := rfl
      refine ⟨u, ?_, fun place => (hsame' place).trans (hsame place)⟩
      rw [hcons, run_bind_of_ok hrun, hrest]

/-- Every game of a tournament is restored from what was recorded of it. -/
theorem restored_of_recorded
    (hcompiled : ∀ bot ∈ bots, compile bot.source = .ok bot.program)
    (hshort : ∀ bot ∈ bots, bot.program.size ≤ Binary.maxElements)
    (hplayed : ∀ g ∈ games, Tournament.IsPlayed (bots.map Bot.entry) rounds g)
    {ids : List GameId} (hlength : ids.length = games.length) (hids : ids.Nodup)
    (hnew : ∀ id ∈ ids, id ∉ l.gameIds) (hmem : (id, g) ∈ ids.zip games) :
    ∃ a ∈ bots, ∃ b ∈ bots, a.name = g.a ∧ b.name = g.b ∧
      Restored (l.recorded bots (ids.zip games)) place id g a b := by
  obtain ⟨hid, hg⟩ := List.of_mem_zip hmem
  obtain ⟨a, hmemA, b, hmemB, hnameA, hnameB, hplay⟩ := (hplayed g hg).exists_bots
  have hnames : (bots.map Bot.name).Nodup := by
    simpa [Function.comp_def, Bot.entry] using (hplayed g hg).names
  have hdistinct : ((ids.zip games).map Prod.fst).Nodup := by
    rwa [List.map_fst_zip (Nat.le_of_eq hlength)]
  exact ⟨a, hmemA, b, hmemB, hnameA, hnameB,
    restored_of_keeps (Ledger.game?_recorded bots hdistinct hmem (hnew id hid))
      hnameA hnameB (Ledger.keeps_recorded_of_nodup hnames hmemA _)
      (Ledger.keeps_recorded_of_nodup hnames hmemB _) (hcompiled a hmemA)
      (hcompiled b hmemB) ⟨hshort a hmemA, hshort b hmemB, hplay⟩⟩

/-! ## The job -/

/-- What is done once the games of a tournament are over: the outcome is printed,
recorded and inspected. -/
def settle (w : Surroundings) (o : Options) (bots : List Bot)
    (outcome : Tournament.Outcome) : Work Unit := do
  outcome.games.forM fun g => printLine (gameLine g.a g.b g.result)
  let standings ← Work.ofExcept outcome.standings
  print (standingsTable standings)
  recordGames w o bots outcome.games
  inspect w o "hill"
    [("bots", .list (bots.map .ofBot)),
      ("games", .list (outcome.games.map .ofGameRecord)),
      ("standings", .list (standings.map .ofStanding))]

/-- A tournament is played one game after the other, and then it is settled. -/
theorem hill_eq (references : List String) :
    hill w o references = (do
      let bots ← w.loadBots o references
      let rounds ← w.rounds o
      let atOnce ← Work.ofExcept (parallelism o w.loader w.processors)
      let (outcome, records) :=
        Tournament.playLogged false w.span atOnce (bots.map Bot.entry) rounds
          fun _ _ => none
      log records
      settle w o bots outcome) :=
  rfl

/-- A tournament that came through is recorded, and then it goes on to its script. -/
theorem run_settle {standings : List Standing} (hok : outcome.standings = .ok standings)
    (hrecord : o.record = true) (hfind : w.FindsLedger o s.shelf (some place))
    (bots : List Bot) :
    ∃ u, (settle w o bots outcome).run.run s =
        (inspect w o "hill" [("bots", .list (bots.map .ofBot)),
          ("games", .list (outcome.games.map .ofGameRecord)),
          ("standings", .list (standings.map .ofStanding))]).run.run u ∧
      u.shelf = s.shelf.put (some place) ((s.shelf.get (some place)).recorded bots
        ((w.nextIds s outcome.games.length).zip outcome.games)) ∧
      u.idsUsed = s.idsUsed + outcome.games.length := by
  obtain ⟨printed, hprint⟩ := run_forM_printLine
    (fun g : GameRecord => gameLine g.a g.b g.result) outcome.games s
  rw [settle, run_bind_of_ok hprint, run_bind_of_ok (run_ofExcept hok _),
    run_bind_of_ok (run_print _ _)]
  let t : Session := { s with printed := standingsTable standings :: printed }
  have hfind' : w.FindsLedger o t.shelf (some place) := hfind
  obtain ⟨_, hrecorded⟩ := run_recordGames hrecord hfind' bots outcome.games
  rw [run_bind_of_ok hrecorded]
  exact ⟨_, rfl, rfl, rfl⟩

theorem settle_of_run_hill {references : List String}
    (hload : (Bot.loadAll ⟨w.file, w.web⟩ references).1 = .ok bots)
    (h : (hill w o references).run.run s = (.ok (), s')) :
    ∃ rounds atOnce u, w.Configures o rounds ∧
      parallelism o w.loader w.processors = .ok atOnce ∧ u.shelf = s.shelf ∧
      u.idsUsed = s.idsUsed ∧
      (settle w o bots (Tournament.play false atOnce (bots.map Bot.entry) rounds
        fun _ _ => none)).run.run u = (.ok (), s') := by
  rw [hill_eq] at h
  obtain ⟨_, t₁, hbots, h⟩ := exists_of_run_bind h
  obtain ⟨-, hload'⟩ := loadAll_of_run_loadBots hbots
  cases hload'.symm.trans hload
  obtain ⟨rounds, t₂, hrounds, h⟩ := exists_of_run_bind h
  obtain ⟨atOnce, t₃, hatOnce, h⟩ := exists_of_run_bind h
  rcases hlogged : Tournament.playLogged false w.span atOnce (bots.map Bot.entry) rounds
    fun _ _ => none with ⟨outcome, records⟩
  rw [hlogged] at h
  obtain ⟨_, u, hlog, h⟩ := exists_of_run_bind h
  obtain ⟨_, _, -, hrest⟩ := exists_of_run_bind h
  obtain ⟨standings, _, hok, -⟩ := exists_of_run_bind hrest
  rw [Tournament.eq_play_of_playLogged hlogged (congrArg Prod.fst hok)] at h
  obtain ⟨hshelf₁, hids₁⟩ := (sparesLedgers_loadBots references).of_run hbots
  obtain ⟨hshelf₂, hids₂⟩ := sparesLedgers_rounds.of_run hrounds
  obtain ⟨hshelf₃, hids₃⟩ := (sparesLedgers_ofExcept _).of_run hatOnce
  obtain ⟨hshelf₄, hids₄⟩ := (sparesLedgers_log records).of_run hlog
  refine ⟨rounds, atOnce, u, configures_of_run_rounds hrounds, congrArg Prod.fst hatOnce,
    ?_, ?_, h⟩
  · rw [hshelf₄, hshelf₃, hshelf₂, hshelf₁]
  · rw [hids₄, hids₃, hids₂, hids₁]

theorem run_hill {proxy : Text × List Log.Record} (hproxy : w.proxy o = .ok proxy)
    {references : List String}
    (hload : (Bot.loadAll ⟨w.file, w.web⟩ references).1 = .ok bots)
    (hrounds : w.Configures o rounds) {atOnce : Int}
    (hatOnce : parallelism o w.loader w.processors = .ok atOnce)
    {standings : List Standing}
    (hok : (Tournament.play false atOnce (bots.map Bot.entry) rounds
      fun _ _ => none).standings = .ok standings) (s : Session) :
    ∃ logged, (hill w o references).run.run s =
      (settle w o bots (Tournament.play false atOnce
      (bots.map Bot.entry) rounds fun _ _ => none)).run.run { s with logged } := by
  obtain ⟨records, hlogged⟩ := Tournament.exists_playLogged w.span hok
  obtain ⟨_, hbots⟩ := run_loadBots hproxy hload s
  obtain ⟨logged, hconfigured⟩ := run_rounds hrounds { s with logged := _ }
  rw [hill_eq, run_bind_of_ok hbots, run_bind_of_ok hconfigured,
    run_bind_of_ok (run_ofExcept hatOnce _), hlogged]
  dsimp only
  rw [run_bind_of_ok (run_log _ _)]
  exact ⟨_, rfl⟩

theorem settled_of_run_settle (hrecord : o.record = true)
    (hfind : w.FindsLedger o s.shelf (some place))
    (h : (settle w o bots outcome).run.run s = (.ok (), s')) :
    s'.shelf.get (some place) = (s.shelf.get (some place)).recorded bots
        ((w.nextIds s outcome.games.length).zip outcome.games) ∧
      s'.idsUsed = s.idsUsed + outcome.games.length := by
  obtain ⟨_, _, -, hrest⟩ := exists_of_run_bind h
  obtain ⟨standings, _, hok, -⟩ := exists_of_run_bind hrest
  have hok : outcome.standings = .ok standings := congrArg Prod.fst hok
  obtain ⟨u, hrun, hshelf, hids⟩ := run_settle hok hrecord hfind bots
  rw [hrun] at h
  obtain ⟨hshelf', hids'⟩ := (sparesLedgers_inspect _ _).of_run h
  refine ⟨?_, hids'.trans hids⟩
  rw [hshelf', hshelf, get_put]

/-- The identifiers that a session gives out until another moment are new to a ledger
and different from each other. -/
def GivesNewIds (w : Surroundings) (s s' : Session) (l : Ledger) : Prop :=
  (w.nextIds s (s'.idsUsed - s.idsUsed)).Nodup ∧
    ∀ id ∈ w.nextIds s (s'.idsUsed - s.idsUsed), id ∉ l.gameIds

/-- Of the games that a session has recorded until another moment, each under the
identifier that it was given, every one is restored with two of the bots. -/
def LeavesRestored (w : Surroundings) (s s' : Session) (place : String) (bots : List Bot)
    (games : List GameRecord) : Prop :=
  s'.idsUsed = s.idsUsed + games.length ∧
    ∀ id g, (id, g) ∈ (w.nextIds s games.length).zip games →
      ∃ a ∈ bots, ∃ b ∈ bots, a.name = g.a ∧ b.name = g.b ∧
        Restored (s'.shelf.get (some place)) place id g a b

theorem leavesRestored_of_settle
    (hcompiled : ∀ bot ∈ bots, compile bot.source = .ok bot.program)
    (hshort : ∀ bot ∈ bots, bot.program.size ≤ Binary.maxElements)
    (hplayed : ∀ g ∈ outcome.games, Tournament.IsPlayed (bots.map Bot.entry) rounds g)
    (hrecord : o.record = true) (hfind : w.FindsLedger o s.shelf (some place))
    (hids : w.GivesNewIds s s' (s.shelf.get (some place)))
    (h : (settle w o bots outcome).run.run s = (.ok (), s')) :
    w.LeavesRestored s s' place bots outcome.games := by
  obtain ⟨hkept, hused⟩ := settled_of_run_settle hrecord hfind h
  rw [GivesNewIds, hused, Nat.add_sub_cancel_left] at hids
  refine ⟨hused, fun id g hmem => ?_⟩
  rw [hkept]
  exact restored_of_recorded hcompiled hshort hplayed (by simp [nextIds])
    hids.1 hids.2 hmem

/-- A tournament that is recorded leaves everything that is needed to replay every
game of it: the records as they were reported, and both bots as they were, which play
the recorded rounds again to the recorded result. This is so after the job, and it
would be so after any other schedule of its games, whatever was in the ledger before,
as long as the identifiers are new and no program is too long to be read back. -/
theorem recorded_tournaments_replay {references : List String}
    (hload : (Bot.loadAll ⟨w.file, w.web⟩ references).1 = .ok bots)
    (hshort : ∀ bot ∈ bots, bot.program.size ≤ Binary.maxElements)
    (hrecord : o.record = true) (hfind : w.FindsLedger o s.shelf (some place))
    (hids : w.GivesNewIds s s' (s.shelf.get (some place))) :
    ((hill w o references).run.run s = (.ok (), s') →
      ∃ rounds atOnce, w.Configures o rounds ∧
        parallelism o w.loader w.processors = .ok atOnce ∧
        w.LeavesRestored s s' place bots (Tournament.play false atOnce
          (bots.map Bot.entry) rounds fun _ _ => none).games) ∧
    ∀ rounds atOnce events outcome,
      Tournament.scheduled atOnce (bots.map Bot.entry) rounds (fun _ _ => none) events =
        some outcome →
      (settle w o bots outcome).run.run s = (.ok (), s') →
      w.LeavesRestored s s' place bots outcome.games := by
  have hcompiled := Bot.compile_of_loadAll hload
  constructor
  · intro hhill
    -- No ledger is touched and no identifier given out before the games are over.
    obtain ⟨rounds, atOnce, u, hrounds, hatOnce, hshelf, hused, hsettle⟩ :=
      settle_of_run_hill hload hhill
    refine ⟨rounds, atOnce, hrounds, hatOnce, ?_⟩
    have hsame : ∀ n, w.nextIds u n = w.nextIds s n :=
      fun n => by rw [nextIds, hused, nextIds]
    rw [GivesNewIds, ← hused, ← hsame, ← hshelf] at hids
    rw [← hshelf] at hfind
    have hleaves := leavesRestored_of_settle hcompiled hshort
      (fun g hg => Tournament.isPlayed_of_play hg) hrecord hfind hids hsettle
    rwa [LeavesRestored, hused, hsame] at hleaves
  · intro rounds atOnce events outcome hscheduled hsettled
    exact leavesRestored_of_settle hcompiled hshort
      (fun g hg => Tournament.isPlayed_of_scheduled hscheduled hg) hrecord hfind
      hids hsettled

/-- A bot that waits and two that leave the tape. -/
def oneWaits : List Bot :=
  [.idle "idle", .back "back", .back "mouse"]

/-- The theorem at a tournament of three bots, of which all games are replayed. -/
theorem recorded_tournaments_replay_all :
    ∃ s', (hill (ofFiles [("idle.bf", "[]"), ("back.bf", "<"), ("mouse.bf", "<")])
        recordingOptions ["idle.bf", "back.bf", "mouse.bf"]).run.run {} = (.ok (), s') ∧
      ∃ u, (["00000000-0000-0000-0000-000000000002",
        "00000000-0000-0000-0000-000000000000",
        "00000000-0000-0000-0000-000000000001"].forM
          (replay (ofFiles []) recordingOptions)).run.run { shelf := s'.shelf } =
          (.ok (), u) := by
  let w := ofFiles [("idle.bf", "[]"), ("back.bf", "<"), ("mouse.bf", "<")]
  have hload : (Bot.loadAll ⟨w.file, w.web⟩ ["idle.bf", "back.bf", "mouse.bf"]).1 =
      .ok oneWaits := by
    cbv
  have hplayable : Tournament.Playable (oneWaits.map Bot.entry) (.between 10 10 50) := by
    refine ⟨by decide, List.forall_mem_map.mpr fun bot hbot => ?_, by decide, by decide⟩
    exact ⟨_, Bot.compile_of_loadAll hload bot hbot⟩
  have hplay : Tournament.play false 1 (oneWaits.map Bot.entry) (.between 10 10 50)
      (fun _ _ => none) = _ := hplayable.play_eq (by decide) fun _ _ => rfl
  have hlength : (Tournament.play false 1 (oneWaits.map Bot.entry) (.between 10 10 50)
      fun _ _ => none).games.length = 3 := by
    have hall :=
      congrArg List.length (Tournament.map_some_filterMap hplayable.exists_record)
    rw [List.length_map, List.length_map] at hall
    rw [hplay]
    exact hall
  have hatOnce : parallelism recordingOptions w.loader w.processors = .ok 1 :=
    chooseInt_of_no_directories rfl _ _ _
  obtain ⟨proxy, hproxy⟩ := proxy_of_no_directories (o := recordingOptions) (w := w) rfl
  obtain ⟨logged, hhill⟩ := run_hill hproxy hload (configures_ofFiles _) hatOnce
    (congrArg Tournament.Outcome.standings hplay) {}
  obtain ⟨s', hsettle, -, hused⟩ := run_settle (s := { logged }) (w := w)
    (congrArg Tournament.Outcome.standings hplay) rfl (findsLedger_ofFiles _ _) oneWaits
  rw [hsettle, run_inspect_of_no_script rfl rfl] at hhill
  rw [hlength] at hused
  have hused : s'.idsUsed = 3 := hused
  have hids : w.GivesNewIds {} s' ((({} : Session).shelf).get (some "l.db")) := by
    rw [GivesNewIds, hused]
    decide
  obtain ⟨rounds, atOnce, -, -, hused', hrestored⟩ := (recorded_tournaments_replay hload
    (by decide) rfl (findsLedger_ofFiles _ _) hids).1 hhill
  generalize (Tournament.play false atOnce (oneWaits.map Bot.entry) rounds
    fun _ _ => none).games = games at hused' hrestored
  have hthree : games.length = 3 := by
    rw [← hused, hused', Nat.zero_add]
  obtain ⟨first, second, last, rfl⟩ := List.length_eq_three.mp hthree
  have hmem₀ : (w.ids 0, first) ∈ (w.nextIds {} 3).zip [first, second, last] :=
    List.mem_of_getElem? (i := 0) rfl
  have hmem₁ : (w.ids 1, second) ∈ (w.nextIds {} 3).zip [first, second, last] :=
    List.mem_of_getElem? (i := 1) rfl
  have hmem₂ : (w.ids 2, last) ∈ (w.nextIds {} 3).zip [first, second, last] :=
    List.mem_of_getElem? (i := 2) rfl
  obtain ⟨a₀, -, b₀, -, -, -, hfirst⟩ := hrestored _ _ hmem₀
  obtain ⟨a₁, -, b₁, -, -, -, hsecond⟩ := hrestored _ _ hmem₁
  obtain ⟨a₂, -, b₂, -, -, -, hlast⟩ := hrestored _ _ hmem₂
  have hasked : ∀ idText ∈ ["00000000-0000-0000-0000-000000000002",
      "00000000-0000-0000-0000-000000000000", "00000000-0000-0000-0000-000000000001"],
      ∃ id g a b, GameId.read (Text.ofString idText) = .ok id ∧
        Restored (s'.shelf.get (some "l.db")) "l.db" id g a b := by
    simp only [List.forall_mem_cons]
    refine ⟨⟨_, _, _, _, ?_, hlast⟩, ⟨_, _, _, _, ?_, hfirst⟩, ⟨_, _, _, _, ?_, hsecond⟩,
      fun _ hmem => absurd hmem List.not_mem_nil⟩
    · exact GameId.read_of_eq_write (by decide) (by decide +kernel)
    · exact GameId.read_of_eq_write (by decide) (by decide +kernel)
    · exact GameId.read_of_eq_write (by decide) (by decide +kernel)
  let t : Session := { shelf := s'.shelf }
  obtain ⟨u, hall, -⟩ := run_forM_replay (s := t) (w := ofFiles [])
      (o := recordingOptions)
    hasked rfl (findsLedger_ofFiles []) rfl
  exact ⟨s', hhill, u, hall⟩

end App.Surroundings

end TapeDuel
