import TapeDuel.Proofs.Defaults
import TapeDuel.Proofs.GameIds
import TapeDuel.Proofs.Replays

/-!
# Recorded fights

A recorded fight leaves its two bots and its game in the ledger, so a replay that
follows it should find all it needs. Two things can go wrong. A bot is kept under
its name, and the names of the two are not compared: if they are the same, the
second bot takes the place of the first, and it is the second that plays the replay
against itself. And a program that is too long to be read back is recorded all the
same. Nothing else goes wrong.
-/

namespace TapeDuel

/-- What is left under the name of a bot once another one was kept after it. -/
def Bot.leftBy (bot other : Bot) : Bot :=
  if bot.name = other.name then other else bot

theorem Bot.name_leftBy (bot other : Bot) : (bot.leftBy other).name = bot.name := by
  rw [leftBy]
  split
  · next h => exact h.symm
  · rfl

/-- Two bots are recorded one after the other. -/
theorem Ledger.keeps_recorded_pair (l : Ledger) (a b : Bot)
    (games : List (GameId × GameRecord)) :
    (l.recorded [a, b] games).Keeps (a.leftBy b) ∧
      (l.recorded [a, b] games).Keeps b := by
  have hlast : (l.recorded ([a] ++ b :: []) games).Keeps b :=
    keeps_recorded (fun _ hother => absurd hother List.not_mem_nil) games
  refine ⟨?_, hlast⟩
  rw [Bot.leftBy]
  split
  · exact hlast
  · next h =>
      have hfirst : ∀ other ∈ [b], other.name ≠ a.name := by
        intro other hother
        rw [List.mem_singleton.mp hother]
        exact fun heq => h heq.symm
      exact show (l.recorded ([] ++ a :: [b]) games).Keeps a from
        keeps_recorded hfirst games

/-- A game with a log is the same game. -/
theorem Game.played_eq_ok_iff {interrupts : Interrupts} {span : Log.Span} {elapsed : Nat}
    {a b : Entry} {rounds : Rounds} {result : GameResult}
    {played : Except Failure GameResult} {records : List Log.Record}
    (h : playLogged interrupts span elapsed a b rounds = (played, records)) :
    played = .ok result ↔ play interrupts a.program b.program rounds = .ok result := by
  rw [playLogged] at h
  cases hplay : play interrupts a.program b.program rounds <;> rw [hplay] at h <;>
    cases h <;> simp

namespace App.Surroundings

open Work

variable {w w' : Surroundings} {o o' : Options} {refA refB : String} {botA botB : Bot}
  {s s' : Session} {rounds : Rounds} {result : GameResult}

/-! ## The job -/

/-- A fight is recorded, and then it goes on to its script. -/
theorem run_fight {proxy : Text × List Log.Record} (hproxy : w.proxy o = .ok proxy)
    (hload : (Bot.loadAll ⟨w.file, w.web⟩ [refA, refB]).1 = .ok [botA, botB])
    (hrounds : w.Configures o rounds)
    (hplay : Game.play .never botA.program botB.program rounds = .ok result)
    (hrecord : o.record = true) {place : LedgerPlace}
    (hfind : w.FindsLedger o s.shelf place) :
    ∃ u, (fight w o refA refB).run.run s =
        (inspect w o "fight" [("a", .ofBot botA), ("b", .ofBot botB),
          ("result", .ofGame result)]).run.run u ∧
      u.shelf = s.shelf.put place ((s.shelf.get place).recorded [botA, botB]
        [(w.ids s.idsUsed, ⟨botA.name, botB.name, result⟩)]) := by
  rcases hlogged : Game.playLogged .never w.span 0 botA.entry botB.entry rounds with
    ⟨played, records⟩
  have hplayed : played = .ok result := (Game.played_eq_ok_iff hlogged).mpr hplay
  obtain ⟨_, hbots⟩ := run_loadBots hproxy hload s
  rw [fight, run_bind_of_ok hbots]
  dsimp only
  obtain ⟨logged, hconfigured⟩ := run_rounds hrounds { s with logged := _ }
  rw [run_bind_of_ok hconfigured, hlogged]
  dsimp only
  rw [run_bind_of_ok (run_log _ _), run_bind_of_ok (run_ofExcept hplayed _)]
  obtain ⟨printed, hprint⟩ := run_forM_printLine roundLine result.rounds.toList
    { s with logged := records.reverse ++ logged }
  rw [run_bind_of_ok hprint, printLine, run_bind_of_ok (run_print _ _)]
  let t : Session :=
    { s with
      printed := (gameLine botA.name botB.name result ++ [Text.byte '\n']) :: printed
      logged := records.reverse ++ logged }
  have hfind' : w.FindsLedger o t.shelf place := hfind
  obtain ⟨_, hrecorded⟩ := run_recordGames hrecord hfind' [botA, botB]
    [⟨botA.name, botB.name, result⟩]
  rw [run_bind_of_ok hrecorded]
  exact ⟨_, rfl, rfl⟩

theorem shelf_of_run_fight
    (hload : (Bot.loadAll ⟨w.file, w.web⟩ [refA, refB]).1 = .ok [botA, botB])
    (hrecord : o.record = true) {place : LedgerPlace}
    (hfind : w.FindsLedger o s.shelf place)
    (hfight : (fight w o refA refB).run.run s = (.ok (), s')) :
    ∃ rounds result, w.Configures o rounds ∧
      Game.play .never botA.program botB.program rounds = .ok result ∧
      s'.shelf = s.shelf.put place ((s.shelf.get place).recorded [botA, botB]
        [(w.ids s.idsUsed, ⟨botA.name, botB.name, result⟩)]) := by
  obtain ⟨bots, _, hbots, h⟩ := exists_of_run_bind hfight
  obtain ⟨⟨proxy, hproxy⟩, hload'⟩ := loadAll_of_run_loadBots hbots
  cases hload'.symm.trans hload
  obtain ⟨rounds, _, hrounds, h⟩ := exists_of_run_bind h
  have hrounds := configures_of_run_rounds hrounds
  rcases hlogged : Game.playLogged .never w.span 0 botA.entry botB.entry rounds with
    ⟨played, records⟩
  rw [hlogged] at h
  obtain ⟨_, _, -, h⟩ := exists_of_run_bind h
  obtain ⟨result, _, hplayed, -⟩ := exists_of_run_bind h
  have hplay : Game.play .never botA.program botB.program rounds = .ok result :=
    (Game.played_eq_ok_iff hlogged).mp (congrArg Prod.fst hplayed)
  obtain ⟨u, hrun, hshelf⟩ := run_fight hproxy hload hrounds hplay hrecord hfind
  rw [hrun] at hfight
  refine ⟨rounds, result, hrounds, hplay, ?_⟩
  rw [((sparesLedgers_inspect _ _).of_run hfight).1, hshelf]

/-! ## The replay -/

/-- What the replay of a fight comes to, right after it was recorded. -/
theorem replay_after_fight (hcompiledA : compile botA.source = .ok botA.program)
    (hcompiledB : compile botB.source = .ok botB.program)
    (hsizeA : botA.program.size < 2 ^ 63) (hsizeB : botB.program.size < 2 ^ 63)
    (hplay : Game.play .never botA.program botB.program rounds = .ok result)
    {l : Ledger} {id : GameId} (hnew : id ∉ l.gameIds) {place : LedgerPlace}
    (hkept : s.shelf.get place =
      l.recorded [botA, botB] [(id, ⟨botA.name, botB.name, result⟩)])
    {idText : String} (hid : GameId.read idText = .ok id)
    (hfind : w.FindsLedger o s.shelf place) :
    (PlaysAgain (botA.leftBy botB) botB rounds result →
      w.Replays o idText s ⟨botA.name, botB.name, result⟩ (botA.leftBy botB) botB) ∧
    (¬PlaysAgain (botA.leftBy botB) botB rounds result →
      w.ReplayFails o idText s ⟨botA.name, botB.name, result⟩
      (botA.leftBy botB) botB) := by
  have hfirst : compile (botA.leftBy botB).source = .ok (botA.leftBy botB).program ∧
      (botA.leftBy botB).program.size < 2 ^ 63 := by
    rw [Bot.leftBy]
    split
    · exact ⟨hcompiledB, hsizeB⟩
    · exact ⟨hcompiledA, hsizeA⟩
  obtain ⟨hkeepsA, hkeepsB⟩ := l.keeps_recorded_pair botA botB
    [(id, ⟨botA.name, botB.name, result⟩)]
  have hgame : (s.shelf.get place).game? id = some ⟨botA.name, botB.name, result⟩ := by
    rw [hkept]
    exact Ledger.game?_recorded [botA, botB] (by simp) List.mem_cons_self hnew
  rw [← hkept] at hkeepsA hkeepsB
  obtain ⟨result', hplay'⟩ :=
    Game.exists_play_of_play (Source.sound_of_compile hcompiledA)
      (Source.sound_of_compile hcompiledB) hplay (Source.sound_of_compile hfirst.1)
      (Source.sound_of_compile hcompiledB)
  exact replay_of_keeps hid hfind hgame (botA.name_leftBy botB) rfl hkeepsA hkeepsB
    (canonical_of_compile hfirst.1) hfirst.2 (canonical_of_compile hcompiledB) hsizeB
    hplay hplay'

/-- A recorded fight is replayed to its end exactly if what is left of its bots in the
ledger can be read back and plays the same game: the replay that follows it finds the
game, reads both bots, and reports that no round differs, or it fails. If the names of
the bots differ, what is left are the bots themselves, which play the same game. -/
theorem recorded_fights_replay_iff {idText : String} {t : Session} {place : String}
    (hload : (Bot.loadAll ⟨w.file, w.web⟩ [refA, refB]).1 = .ok [botA, botB])
    (hsizeA : botA.program.size < 2 ^ 63) (hsizeB : botB.program.size < 2 ^ 63)
    (hrecord : o.record = true) (hfind : w.FindsLedger o s.shelf (some place))
    (hnew : w.ids s.idsUsed ∉ (s.shelf.get (some place)).gameIds)
    (hfight : (fight w o refA refB).run.run s = (.ok (), s'))
    (hsame : t.shelf.get (some place) = s'.shelf.get (some place))
    (hfind' : w'.FindsLedger o' t.shelf (some place))
    (hid : GameId.read idText = .ok (w.ids s.idsUsed)) :
    ∃ rounds result, w.Configures o rounds ∧
      Game.play .never botA.program botB.program rounds = .ok result ∧
      (PlaysAgain (botA.leftBy botB) botB rounds result →
        w'.Replays o' idText t ⟨botA.name, botB.name, result⟩ (botA.leftBy botB) botB) ∧
      (¬PlaysAgain (botA.leftBy botB) botB rounds result →
        w'.ReplayFails o' idText t ⟨botA.name, botB.name, result⟩ (botA.leftBy botB)
          botB) ∧
      (botA.name ≠ botB.name → botA.program.size ≤ Binary.maxElements →
        botB.program.size ≤ Binary.maxElements →
        w'.Replays o' idText t ⟨botA.name, botB.name, result⟩ botA botB) := by
  have hcompiled := Bot.compile_of_loadAll hload
  obtain ⟨rounds, result, hrounds, hplay, hshelf⟩ :=
    shelf_of_run_fight hload hrecord hfind hfight
  rw [hshelf, get_put] at hsame
  obtain ⟨hreplays, hfails⟩ := replay_after_fight (hcompiled botA (by simp))
    (hcompiled botB (by simp)) hsizeA hsizeB hplay hnew hsame hid hfind'
  refine ⟨rounds, result, hrounds, hplay, hreplays, hfails,
    fun hnames hshortA hshortB => ?_⟩
  rw [Bot.leftBy, if_neg hnames] at hreplays
  exact hreplays ⟨hshortA, hshortB, hplay⟩

/-- The game of a bot that waits against one that leaves the tape. -/
def waitsForLeaver : GameResult :=
  ⟨2, -2, #[⟨⟨10, false, 50⟩, ⟨false, true⟩, 1⟩, ⟨⟨10, true, 50⟩, ⟨false, true⟩, 1⟩]⟩

theorem idle_beats_back (name name' : String) :
    Game.play .never (Bot.idle name).program (Bot.back name').program
      (.between 10 10 50) = .ok waitsForLeaver := by
  cbv

theorem read_zeros :
    GameId.read (Text.ofString "00000000-0000-0000-0000-000000000000") = .ok ⟨0⟩ :=
  GameId.read_of_eq_write (by decide) (by decide +kernel)

/-- A fight of the bots in some files, recorded in a new ledger. -/
theorem exists_recorded_fight {files : List (String × Text)}
    (hload : (Bot.loadAll ⟨(ofFiles files).file, (ofFiles files).web⟩ [refA, refB]).1 =
      .ok [botA, botB])
    (hplay : Game.play .never botA.program botB.program (.between 10 10 50) =
      .ok result) :
    ∃ s', (fight (ofFiles files) recordingOptions refA refB).run.run {} = (.ok (), s') ∧
      s'.shelf.get (some "l.db") = Ledger.empty.recorded [botA, botB]
        [(⟨0⟩, ⟨botA.name, botB.name, result⟩)] := by
  obtain ⟨proxy, hproxy⟩ :=
    proxy_of_no_directories (w := ofFiles files) (o := recordingOptions) rfl
  obtain ⟨s', hfight, hshelf⟩ := run_fight (s := {}) hproxy hload (configures_ofFiles _)
    hplay rfl (findsLedger_ofFiles _ _)
  rw [run_inspect_of_no_script rfl rfl] at hfight
  refine ⟨s', hfight, ?_⟩
  rw [hshelf, get_put]
  rfl

/-- The theorem at two bots of different names, where the replay succeeds. -/
theorem recorded_fights_replay_iff_idle :
    ∃ s', (fight (ofFiles [("idle.bf", "[]"), ("back.bf", "<")]) recordingOptions
        "idle.bf" "back.bf").run.run {} = (.ok (), s') ∧
      ((replay (ofFiles []) recordingOptions
        "00000000-0000-0000-0000-000000000000").run.run { shelf := s'.shelf }).1 =
        .ok () := by
  let w := ofFiles [("idle.bf", "[]"), ("back.bf", "<")]
  have hload : (Bot.loadAll ⟨w.file, w.web⟩ ["idle.bf", "back.bf"]).1 =
      .ok [.idle "idle", .back "back"] := by
    cbv
  obtain ⟨s', hfight, -⟩ := exists_recorded_fight hload (idle_beats_back "idle" "back")
  have hfind : (ofFiles []).FindsLedger recordingOptions s'.shelf (some "l.db") :=
    findsLedger_ofFiles _ _
  obtain ⟨_, _, -, -, -, -, hreplays⟩ :=
    recorded_fights_replay_iff (t := { shelf := s'.shelf }) hload (by decide) (by decide)
      rfl (findsLedger_ofFiles _ _) (by decide) hfight rfl hfind read_zeros
  exact ⟨s', hfight, (hreplays (by decide) (by decide) (by decide)).succeeds rfl⟩

/-- Of two bots with one name the second plays the replay against itself, which is
another game. -/
theorem namesake_replays_another_game :
    ∃ s', (fight (ofFiles [("x/bot.bf", "[]"), ("y/bot.bf", "<")]) recordingOptions
        "x/bot.bf" "y/bot.bf").run.run {} = (.ok (), s') ∧
      ∃ k u, 0 < k ∧ (replay (ofFiles []) recordingOptions
        "00000000-0000-0000-0000-000000000000").run.run { shelf := s'.shelf } =
          (.error (mismatch k 2), u) := by
  let w := ofFiles [("x/bot.bf", "[]"), ("y/bot.bf", "<")]
  have hload : (Bot.loadAll ⟨w.file, w.web⟩ ["x/bot.bf", "y/bot.bf"]).1 =
      .ok [.idle "bot", .back "bot"] := by
    cbv
  have hcompiled := Bot.compile_of_loadAll hload
  obtain ⟨s', hfight, hkept⟩ := exists_recorded_fight hload (idle_beats_back "bot" "bot")
  have hfind : (ofFiles []).FindsLedger recordingOptions s'.shelf (some "l.db") :=
    findsLedger_ofFiles _ _
  obtain ⟨-, hfails⟩ := replay_after_fight (s := { shelf := s'.shelf })
    (hcompiled (Bot.idle "bot") (by simp)) (hcompiled (Bot.back "bot") (by simp))
    (by decide)
    (by decide) (idle_beats_back "bot" "bot") (by decide) hkept read_zeros hfind
  have hdraws : Game.play .never (Bot.back "bot").program (Bot.back "bot").program
      (.between 10 10 50) ≠ .ok waitsForLeaver := by
    cbv
    simp
  obtain ⟨failure, u, -, hrun, hfailure⟩ := hfails fun hagain => hdraws hagain.play
  obtain ⟨hlong, -⟩ | ⟨hlong, -⟩ | ⟨k, hpos, rfl⟩ := hfailure
  · exact absurd hlong (by decide)
  · exact absurd hlong (by decide)
  · exact ⟨s', hfight, k, u, hpos, hrun⟩

end App.Surroundings

end TapeDuel
