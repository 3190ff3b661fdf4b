import TapeDuel.Proofs.Recordings
import TapeDuel.Proofs.ReplayedGames

/-!
# What a replay comes to

A replay finds a game under its identifier, reads back what is kept under the names
of its two players, plays the recorded rounds with these bots, and compares. If the
bots were compiled, every step but two is bound to come through: a bot may be too
long to be read back, and the bots that are kept may play another game than the one
recorded. So there are exactly two ways for it to go (`replay_of_keeps`): it reports
that no round differs and goes on to its script, or it fails for one of these
reasons.
-/

namespace TapeDuel

/-- Why a bot that is kept is not read back. -/
def Bot.unreadable (bot : Bot) : Failure :=
  .within s!"bot {bot.name}" (.corrupt .malformed)

/-- A step that changes nothing, done in a transaction of its own. -/
theorem Ledger.update_of_view {α : Type} {l : Ledger} {step : Transaction.Step α}
    {result : Except Failure α} (h : step (.start l) = (result, .start l)) :
    l.update step = (result, l) := by
  rw [update, h]
  cases result <;> rfl

namespace App

open Log (Record)
open Work

namespace Surroundings

variable {w : Surroundings} {o : Options} {idText : String} {id : GameId} {s : Session}
  {place : LedgerPlace} {g : GameRecord} {a b : Bot}

/-! ## Reading a game and its bots back -/

theorem recordedGame_of_keeps {t : Transaction} (hopen : t.isDone = false)
    (hgame : t.current.game? id = some g) (hnameA : a.name = g.a) (hnameB : b.name = g.b)
    (hkeepsA : t.current.Keeps a) (hkeepsB : t.current.Keeps b)
    (hcompiledA : a.program.Canonical) (hsizeA : a.program.size < 2 ^ 63)
    (hcompiledB : b.program.Canonical) (hsizeB : b.program.size < 2 ^ 63) :
    recordedGame id t =
      (if a.program.size ≤ Binary.maxElements then
        if b.program.size ≤ Binary.maxElements then .ok (g, a, b)
        else .error b.unreadable
      else .error a.unreadable, t) := by
  have hloadA := Transaction.loadBot_of_keeps hopen hkeepsA hcompiledA hsizeA
  have hloadB := Transaction.loadBot_of_keeps hopen hkeepsB hcompiledB hsizeB
  rw [hnameA] at hloadA
  rw [hnameB] at hloadB
  simp only [recordedGame, Transaction.andThen,
    Transaction.loadGame_of_game? hopen hgame, hloadA]
  by_cases hshortA : a.program.size ≤ Binary.maxElements
  · simp only [hshortA, if_true, hloadB]
    by_cases hshortB : b.program.size ≤ Binary.maxElements
    · simp only [hshortB, if_true]
    · simp only [hshortB, if_false, Bot.unreadable, hnameB]
  · simp only [hshortA, if_false, Bot.unreadable, hnameA]

/-! ## The job -/

theorem run_forM_printLine {α : Type} (f : α → Text) (as : List α) (s : Session) :
    ∃ printed, (as.forM fun a => printLine (f a)).run.run s =
      (.ok (), { s with printed }) := by
  induction as generalizing s with
  | nil => exact ⟨_, rfl⟩
  | cons a as ih =>
      obtain ⟨printed, hrest⟩ :=
        ih { s with printed := (f a ++ [Text.byte '\n']) :: s.printed }
      exact ⟨printed, hrest⟩

/-- What a replay says when rounds differ. -/
def mismatch (mismatched rounds : Nat) : Failure :=
  .within "replay does not match the recorded game"
    (.plain s!"{mismatched} of {rounds} rounds differ")

theorem read_mapError (hid : GameId.read idText = .ok id) (f : GameId.Flaw → Failure) :
    (GameId.read idText).mapError f = .ok id := by
  rw [hid]
  rfl

/-- What cannot be read back cannot be replayed. -/
theorem run_replay_of_error (hid : GameId.read idText = .ok id)
    (hfind : w.FindsLedger o s.shelf place) {failure : Failure}
    (hload : (s.shelf.get place).update (recordedGame id) =
      (.error failure, s.shelf.get place)) :
    ∃ u, s.SameLedgers u ∧ (replay w o idText).run.run s = (.error failure, u) := by
  obtain ⟨logged, hrun⟩ := run_withLedger hfind (recordedGame id)
  simp only [Shelf.update, hload] at hrun
  rw [replay, run_bind_of_ok (run_ofExcept (read_mapError hid _) s),
    run_bind_of_error hrun]
  refine ⟨_, ?_, rfl⟩
  exact get_put_get s.shelf place

/-- A game that was read back is played again and compared. -/
theorem run_replay_of_ok (hid : GameId.read idText = .ok id)
    (hfind : w.FindsLedger o s.shelf place)
    (hload : (s.shelf.get place).update (recordedGame id) =
      (.ok (g, a, b), s.shelf.get place))
    {result : GameResult}
    (hplay : Game.play .never a.program b.program
      (.listed (g.result.rounds.toList.map RoundRecord.params)) = .ok result)
    {mismatched rounds : Nat}
    (hmismatched : ((compareRounds result g.result).filter fun c => c.2.isSome).length =
      mismatched) (hrounds : (compareRounds result g.result).length = rounds) :
    ∃ u, s.SameLedgers u ∧ u.logged.head? = some (replayRecord id rounds mismatched) ∧
      (replay w o idText).run.run s =
        if 0 < mismatched then (.error (mismatch mismatched rounds), u)
        else (inspect w o "replay" [("a", .ofBot a), ("b", .ofBot b),
          ("recorded", .ofGame g.result), ("result", .ofGame result)]).run.run u := by
  obtain ⟨logged, hrun⟩ := run_withLedger hfind (recordedGame id)
  simp only [Shelf.update, hload] at hrun
  obtain ⟨printed, hprint⟩ := run_forM_printLine
    (fun c : RoundRecord × Option RoundRecord =>
      roundLine c.1 ++ (c.2.map mismatchMark).getD []) (compareRounds result g.result)
    { s with logged, shelf := s.shelf.put place (s.shelf.get place) }
  rw [replay, run_bind_of_ok (run_ofExcept (read_mapError hid _) s), run_bind_of_ok hrun]
  dsimp only
  rw [run_bind_of_ok (run_ofExcept hplay _), run_bind_of_ok hprint, printLine,
    run_bind_of_ok (run_print _ _), run_bind_of_ok (run_log _ _), hmismatched, hrounds]
  refine ⟨⟨(gameLine a.name b.name result ++ [Text.byte '\n']) :: printed,
    replayRecord id rounds mismatched :: logged, s.shelf.put place (s.shelf.get place),
    s.idsUsed⟩, get_put_get s.shelf place, rfl, ?_⟩
  split <;> rfl

/-- A replay reads a game and two bots back and plays the game again; it leaves the
ledgers as they were, reports that no round differs and goes on to its script. -/
def Replays (w : Surroundings) (o : Options) (idText : String) (s : Session)
    (g : GameRecord) (a b : Bot) : Prop :=
  ∃ id u, GameId.read idText = .ok id ∧ s.SameLedgers u ∧
    u.logged.head? = some (replayRecord id g.result.rounds.size 0) ∧
    (replay w o idText).run.run s =
      (inspect w o "replay" [("a", .ofBot a), ("b", .ofBot b),
        ("recorded", .ofGame g.result), ("result", .ofGame g.result)]).run.run u

/-- A replay without a script that comes that far succeeds. -/
theorem Replays.succeeds (h : w.Replays o idText s g a b) (hscript : o.script = "") :
    ((replay w o idText).run.run s).1 = .ok () := by
  obtain ⟨id, u, -, -, -, hrun⟩ := h
  rw [hrun, inspect, if_neg (not_not_intro hscript)]
  split <;> rfl

/-- After it, whatever its script did, every other game is as it was. -/
theorem Replays.sameLedgers (h : w.Replays o idText s g a b) :
    s.SameLedgers ((replay w o idText).run.run s).2 := by
  obtain ⟨id, u, -, hsame, -, hrun⟩ := h
  intro place
  rw [hrun, (sparesLedgers_inspect _ _ u).1, hsame]

/-- A replay that does not come that far fails, and it leaves the ledgers as they were:
a bot is too long to be read back, or rounds differ. -/
def ReplayFails (w : Surroundings) (o : Options) (idText : String) (s : Session)
    (g : GameRecord) (a b : Bot) : Prop :=
  ∃ failure u, s.SameLedgers u ∧ (replay w o idText).run.run s = (.error failure, u) ∧
    (Binary.maxElements < a.program.size ∧ failure = a.unreadable ∨
      Binary.maxElements < b.program.size ∧ failure = b.unreadable ∨
      ∃ k, 0 < k ∧ failure = mismatch k g.result.rounds.size)

/-- Two bots that can be read back play a game of these rounds to this result. -/
structure PlaysAgain (a b : Bot) (rounds : Rounds) (result : GameResult) : Prop where
  shortA : a.program.size ≤ Binary.maxElements
  shortB : b.program.size ≤ Binary.maxElements
  play : Game.play .never a.program b.program rounds = .ok result

/-- What becomes of the replay of a game that two programs have played: it comes
through exactly if the bots that are kept can be read back and play the game again. -/
theorem replay_of_keeps (hid : GameId.read idText = .ok id)
    (hfind : w.FindsLedger o s.shelf place)
    (hgame : (s.shelf.get place).game? id = some g)
    (hnameA : a.name = g.a) (hnameB : b.name = g.b)
    (hkeepsA : (s.shelf.get place).Keeps a) (hkeepsB : (s.shelf.get place).Keeps b)
    (hcompiledA : a.program.Canonical) (hsizeA : a.program.size < 2 ^ 63)
    (hcompiledB : b.program.Canonical) (hsizeB : b.program.size < 2 ^ 63)
    {p q : Program} {rounds : Rounds}
    (hplayed : Game.play .never p q rounds = .ok g.result) {result : GameResult}
    (hplay : Game.play .never a.program b.program rounds = .ok result) :
    (PlaysAgain a b rounds g.result → w.Replays o idText s g a b) ∧
      (¬PlaysAgain a b rounds g.result → w.ReplayFails o idText s g a b) := by
  have hload := recordedGame_of_keeps (t := .start (s.shelf.get place)) rfl hgame hnameA
    hnameB hkeepsA hkeepsB hcompiledA hsizeA hcompiledB hsizeB
  by_cases hshortA : a.program.size ≤ Binary.maxElements
  · by_cases hshortB : b.program.size ≤ Binary.maxElements
    · rw [if_pos hshortA, if_pos hshortB] at hload
      obtain ⟨hparams, hresult⟩ := Game.records_of_play hplay
      obtain ⟨hrecorded, hpoints⟩ := Game.records_of_play hplayed
      have hsize : result.rounds.size = g.result.rounds.size := by
        simpa using congrArg List.length (hparams.trans hrecorded.symm)
      have hcompared : (compareRounds result g.result).length =
          g.result.rounds.size := by
        simp [compareRounds, hsize]
      obtain ⟨u, hkept, hhead, hrun⟩ := run_replay_of_ok hid hfind
        (Ledger.update_of_view hload) ((Game.play_recorded hplayed _ _).trans hplay) rfl
        hcompared
      have hmismatched := mismatched_compareRounds_eq_zero hsize
      constructor
      · intro hagain
        obtain rfl : result = g.result := Except.ok.inj (hplay.symm.trans hagain.play)
        rw [hmismatched.mpr rfl] at hhead hrun
        rw [if_neg (Nat.lt_irrefl 0)] at hrun
        exact ⟨id, u, hid, hkept, hhead, hrun⟩
      · intro hagain
        -- The points follow from the rounds, so another game has other rounds.
        have hpos :
            0 < ((compareRounds result g.result).filter fun c => c.2.isSome).length := by
          refine Nat.pos_of_ne_zero fun hzero => hagain ⟨hshortA, hshortB, ?_⟩
          rw [hplay, hresult, hmismatched.mp hzero, ← hpoints]
        rw [if_pos hpos] at hrun
        exact ⟨_, u, hkept, hrun, .inr (.inr ⟨_, hpos, rfl⟩)⟩
    · rw [if_pos hshortA, if_neg hshortB] at hload
      obtain ⟨u, hkept, hrun⟩ :=
        run_replay_of_error hid hfind (Ledger.update_of_view hload)
      exact ⟨fun hagain => absurd hagain.shortB hshortB,
        fun _ => ⟨_, u, hkept, hrun, .inr (.inl ⟨Nat.lt_of_not_le hshortB, rfl⟩)⟩⟩
  · rw [if_neg hshortA] at hload
    obtain ⟨u, hkept, hrun⟩ :=
      run_replay_of_error hid hfind (Ledger.update_of_view hload)
    exact ⟨fun hagain => absurd hagain.shortA hshortA,
      fun _ => ⟨_, u, hkept, hrun, .inl ⟨Nat.lt_of_not_le hshortA, rfl⟩⟩⟩

end Surroundings

end App

end TapeDuel
