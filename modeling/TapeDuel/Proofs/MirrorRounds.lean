import TapeDuel.Proofs.GameRounds
import TapeDuel.Proofs.Mirror
import TapeDuel.Proofs.SafeRounds

/-!
# Sides do not matter

Two sound bots that exchange their sides play the same round turned round, step
by step. So the round takes as many steps, is stopped at the same inquiry if it
is stopped, and ends with the exchanged verdict. A game adds up verdicts, and
its points are exchanged with them.
-/

namespace TapeDuel

/-- The end of a round with exchanged sides. -/
def RoundEnd.swap : RoundEnd → RoundEnd
  | finished verdict steps => finished verdict.swap steps
  | canceled steps => canceled steps
  | faulted fault steps => faulted fault steps

namespace Round

variable {params : RoundParams}

theorem proceed_mirror (interrupts : Interrupts) (inverted : Bool)
    (hparams : params.flaw? = none) {fuel : Nat} :
    ∀ {r : Arena} {done asked : Nat}, r.Within Agent.Safe params →
      proceed interrupts fuel (r.mirror inverted) done asked =
        ((proceed interrupts fuel r done asked).1.swap,
          (proceed interrupts fuel r done asked).2) := by
  induction fuel with
  | zero =>
      intro r done asked _
      rfl
  | succ fuel ih =>
      intro r done asked h
      obtain ⟨r₁, hrun, h₁⟩ := h.exists_run_of_safe hparams 1
      obtain ⟨_, hstep, hrest⟩ := Arena.run_succ_eq_ok_iff.mp hrun
      cases hrest
      have hfinished : (r₁.mirror inverted).verdict.isFinished =
          r₁.verdict.isFinished := r₁.verdict.isFinished_swap
      rw [proceed, proceed, Arena.step_mirror h hparams hstep, hstep]
      simp only [hfinished]
      split
      · rfl
      · split
        · split
          · rfl
          · exact ih h₁
        · exact ih h₁

/-- With exchanged sides a round ends after as many steps and inquiries, and
with the exchanged verdict. -/
theorem play_swap {a b : Program} (ha : a.Sound) (hb : b.Sound)
    (interrupts : Interrupts) (asked : Nat) (params : RoundParams) :
    play interrupts asked b a params =
      (play interrupts asked a b params).map fun x => (x.1.swap, x.2) := by
  cases hparams : params.flaw? with
  | some flaw =>
      rw [play_of_flaw hparams, play_of_flaw hparams]
      rfl
  | none =>
      cases hroom : params.hasRoom with
      | false =>
          rw [play_of_no_room hparams hroom, play_of_no_room hparams hroom]
          rfl
      | true =>
          rw [play_eq_proceed hparams hroom, play_eq_proceed hparams hroom,
            ← Arena.mirror_new hparams a b, proceed_mirror interrupts _ hparams
            (Arena.within_new_of_sound ha hb hparams)]
          rfl

/-- A round of sound bots that nobody stops is played to its verdict, however many
inquiries were made before. -/
theorem exists_ending {a b : Program} (ha : a.Sound) (hb : b.Sound)
    (hparams : params.flaw? = none) (hroom : params.hasRoom = true) :
    ∃ verdict steps, verdict.isFinished = true ∧ ∀ asked, ∃ asked',
      play .never asked a b params = .ok (.finished verdict steps, asked') := by
  obtain ⟨r, hrun, hfin⟩ := exists_final ha hb hparams
  refine ⟨r.verdict, r.steps, hfin, fun asked => ?_⟩
  have hnever : ¬ ∃ n, Interrupts.never n = true :=
    fun ⟨_, hstop⟩ => Bool.false_ne_true hstop
  have hend : (proceed .never (params.maxSteps.toNatClampNeg + 1)
      (Arena.new a b params) 0 asked).1 = .finished r.verdict r.steps :=
    (proceed_of_run .never (Nat.succ_pos _) hrun hfin).resolve_right
      fun h => hnever h.1
  rw [play_eq_proceed hparams hroom]
  exact ⟨_, congrArg Except.ok (Prod.ext hend rfl)⟩

theorem exists_verdict {a b : Program} (ha : a.Sound) (hb : b.Sound)
    (hparams : params.flaw? = none) (hroom : params.hasRoom = true)
    (asked : Nat) :
    ∃ verdict steps asked', play .never asked a b params =
      .ok (.finished verdict steps, asked') := by
  obtain ⟨verdict, steps, -, hplay⟩ := exists_ending ha hb hparams hroom
  exact ⟨verdict, steps, hplay asked⟩

end Round

/-! ## Games -/

/-- A round as it is told by the other side. -/
def RoundRecord.swap (record : RoundRecord) : RoundRecord :=
  { record with verdict := record.verdict.swap }

namespace GameResult

/-- A result as it is told by the other side. -/
def swap (g : GameResult) : GameResult :=
  ⟨g.bPoints, g.aPoints, g.rounds.map RoundRecord.swap⟩

theorem swap_add (g : GameResult) (record : RoundRecord) :
    (g.add record).swap = g.swap.add record.swap := by
  obtain ⟨params, ⟨aLost, bLost⟩, steps⟩ := record
  cases aLost <;> cases bLost <;>
    simp [add, swap, RoundRecord.swap, Verdict.swap, Verdict.winner?]

end GameResult

/-- A game half played, as it is told by the other side. -/
def GameState.swap (s : GameState) : GameState :=
  ⟨s.asked, s.result.swap⟩

namespace Game

variable {a b : Program} (interrupts : Interrupts)

theorem playRound_swap (ha : a.Sound) (hb : b.Sound) (params : RoundParams)
    (s : GameState) :
    playRound interrupts b a params s.swap =
      ((playRound interrupts a b params s).1,
        (playRound interrupts a b params s).2.swap) := by
  have hplay := Round.play_swap ha hb interrupts (s.asked + 1) params
  simp only [playRound, GameState.swap, hplay]
  by_cases hstop : interrupts s.asked = true
  · rw [if_pos hstop, if_pos hstop]
  · rw [if_neg hstop, if_neg hstop]
    rcases Round.play interrupts (s.asked + 1) a b params with
      flaw | ⟨⟨verdict, steps⟩ | steps | ⟨fault, steps⟩, asked⟩
    · rfl
    · refine Prod.ext rfl (congrArg (GameState.mk asked) ?_)
      exact (GameResult.swap_add _ ⟨params, verdict, steps⟩).symm
    · rfl
    · rfl

theorem run_task_swap (ha : a.Sound) (hb : b.Sound) (rounds : List RoundParams)
    (s : GameState) :
    (task interrupts b a rounds).run s.swap =
      (((task interrupts a b rounds).run s).1,
        ((task interrupts a b rounds).run s).2.swap) := by
  induction rounds generalizing s with
  | nil => rw [run_task_nil, run_task_nil]
  | cons params rounds ih =>
      rw [run_task_cons, run_task_cons, playRound_swap interrupts ha hb]
      rcases playRound interrupts a b params s with ⟨failure | ⟨⟩, s'⟩
      · rfl
      · exact ih s'

theorem play_swap (ha : a.Sound) (hb : b.Sound) (rounds : Rounds) :
    play interrupts b a rounds =
      (play interrupts a b rounds).map GameResult.swap := by
  rw [play, play]
  cases rounds.flaw? with
  | some flaw => rfl
  | none =>
      have hswap := run_task_swap interrupts ha hb rounds.toList ⟨0, .empty⟩
      have hempty : GameState.swap ⟨0, .empty⟩ = ⟨0, .empty⟩ := by
        simp [GameState.swap, GameResult.swap, GameResult.empty]
      rw [hempty] at hswap
      dsimp only
      rw [hswap]
      rcases (task interrupts a b rounds.toList).run ⟨0, .empty⟩ with
        ⟨failure | ⟨⟩, s⟩
      · rfl
      · rfl

end Game

/-! ## Compiled bots -/

/-- Two compiled bots that exchange their sides play every round turned round:
after any number of steps the tape is the reversed tape, negated in an inverted
round, the bots stand as far from the other end, and the verdict is exchanged.
So are the verdicts of rounds that are played, after as many steps, and the
points of games. -/
theorem compiled_bots_exchange_sides {sa sb : Source} {a b : Program}
    (ha : sa.compile = .ok a) (hb : sb.compile = .ok b) :
    (∀ params : RoundParams, params.flaw? = none →
      (∀ n, ∃ r r', (Arena.new a b params).run n = .ok r ∧
        (Arena.new b a params).run n = .ok r' ∧
        r'.tape = r.tape.mirror params.inverted ∧
        r'.a.position = params.tapeLength.toInt - 1 - r.b.position ∧
        r'.b.position = params.tapeLength.toInt - 1 - r.a.position ∧
        r'.steps = r.steps ∧ r'.verdict = r.verdict.swap) ∧
      (params.hasRoom = true → ∃ verdict steps asked,
        Round.play .never 0 a b params =
          .ok (.finished verdict steps, asked) ∧
        Round.play .never 0 b a params =
          .ok (.finished verdict.swap steps, asked))) ∧
    (∀ interrupts asked params, Round.play interrupts asked b a params =
      (Round.play interrupts asked a b params).map fun x => (x.1.swap, x.2)) ∧
    ∀ interrupts rounds, Game.play interrupts b a rounds =
      (Game.play interrupts a b rounds).map GameResult.swap := by
  have hsa := Source.sound_of_compile ha
  have hsb := Source.sound_of_compile hb
  refine ⟨fun params hparams => ⟨fun n => ?_, fun hroom => ?_⟩,
    Round.play_swap hsa hsb, fun interrupts => Game.play_swap interrupts hsa hsb⟩
  · have hnew := Arena.within_new_of_sound hsa hsb hparams
    obtain ⟨r, hrun, hwithin⟩ := hnew.exists_run_of_safe hparams n
    have hrun' : ((Arena.new a b params).mirror params.inverted).run n =
        .ok (r.mirror params.inverted) :=
      Arena.run_mirror (fun _ _ _ _ hsafe hstep => hsafe.step hstep) hparams
        hnew hrun
    rw [Arena.mirror_new hparams] at hrun'
    rw [← hwithin.size]
    exact ⟨r, _, hrun, hrun', rfl, rfl, rfl, rfl, rfl⟩
  · obtain ⟨verdict, steps, asked, hplay⟩ :=
      Round.exists_verdict hsa hsb hparams hroom 0
    refine ⟨verdict, steps, asked, hplay, ?_⟩
    rw [Round.play_swap hsa hsb, hplay]
    rfl

/-- The theorem at a bot that attacks against one that waits on its flag, in an
inverted round. -/
theorem compiled_bots_exchange_sides_inverted :
    ∃ a b : Program,
      (⟨"", "(>)*3[+]"⟩ : Source).compile = .ok a ∧
      (⟨"", "+(.)*2-"⟩ : Source).compile = .ok b ∧
      (⟨4, true, 9⟩ : RoundParams).flaw? = none ∧
      ∃ r r', (Arena.new a b ⟨4, true, 9⟩).run 6 = .ok r ∧
        (Arena.new b a ⟨4, true, 9⟩).run 6 = .ok r' ∧
        r'.tape = r.tape.mirror true ∧ r'.steps = r.steps ∧
        r'.verdict = r.verdict.swap := by
  have ha : (⟨"", "(>)*3[+]"⟩ : Source).compile =
      .ok (Block.program (.times (.act .forward .done) 3
        (.loop (.act .increment .done) .done))) := by cbv
  have hb : (⟨"", "+(.)*2-"⟩ : Source).compile =
      .ok (Block.program (.act .increment (.times (.act .rest .done) 2
        (.act .decrement .done)))) := by cbv
  have hparams : (⟨4, true, 9⟩ : RoundParams).flaw? = none := by decide
  obtain ⟨r, r', hrun, hrun', htape, -, -, hsteps, hverdict⟩ :=
    ((compiled_bots_exchange_sides ha hb).1 _ hparams).1 6
  exact ⟨_, _, ha, hb, hparams, r, r', hrun, hrun', htape, hsteps, hverdict⟩

end TapeDuel
