import TapeDuel.Proofs.UnrolledRounds

/-!
# The early draw changes no verdict

The arena draws a round as soon as both bots have ended and neither flag is zero.
To say that this is only a matter of time, the round is put beside the same round
*played out*, which is stepped on until its budget is used up whether anything can
still happen or not.

The two are one round until the first is *idle*, which is when the arena would draw
it (`Arena.runOut_eq_run`). An idle round that is played out does nothing but count
its steps: bots that have ended take no turn, so the tape stays, and flags that are
not zero stay so, which is what the rule with its two looks at a flag needs
(`Arena.Idle.runOut`). What ends it is the budget, and that is a draw too.

A bot whose program ends in a counted loop has not ended behind its last turn, and
its round is not idle yet. That is no case of its own here: one step later it is,
and until then the two rounds agree anyway.
-/

namespace TapeDuel

theorem Verdict.eq_ongoing {v : Verdict} (h : v.isFinished = false) : v = .ongoing := by
  rw [isFinished, Bool.or_eq_false_iff] at h
  exact congrArg₂ Verdict.mk h.1 h.2

namespace Arena

/-! ## Playing a round out -/

/-- The round one step later, if nobody looks whether anything can still change. -/
def stepOut (r : Arena) : Except Fault Arena :=
  if r.verdict.isFinished then .ok r
  else if r.maxSteps ≤ r.steps then .ok { r with verdict := .draw }
  else r.advance

/-- The round `n` such steps later. -/
def runOut (r : Arena) : Nat → Except Fault Arena
  | 0 => .ok r
  | n + 1 =>
    match r.stepOut with
    | .error fault => .error fault
    | .ok r => r.runOut n

/-- The round goes on and has steps left, and both bots have ended with neither flag
at zero: the arena is about to draw it early. -/
structure Idle (r : Arena) : Prop where
  going : r.verdict = .ongoing
  left : (r.steps : Int) < r.maxSteps
  sink : r.inSink = .ok true

section RunOut

variable {I : Agent → Prop} {params : RoundParams} {r r' : Arena} {m n : Nat}

theorem stepOut_of_finished (h : r.verdict.isFinished = true) : r.stepOut = .ok r := by
  rw [stepOut, if_pos h]

theorem stepOut_of_spent (hgoing : r.verdict.isFinished = false)
    (hspent : r.maxSteps ≤ r.steps) : r.stepOut = .ok { r with verdict := .draw } := by
  rw [stepOut, if_neg (ne_true_of_eq_false hgoing), if_pos hspent]

theorem stepOut_of_left (hgoing : r.verdict.isFinished = false)
    (hleft : (r.steps : Int) < r.maxSteps) : r.stepOut = r.advance := by
  rw [stepOut, if_neg (ne_true_of_eq_false hgoing), if_neg (Int.not_le.mpr hleft)]

theorem runOut_of_finished (h : r.verdict.isFinished = true) (n : Nat) :
    r.runOut n = .ok r := by
  induction n with
  | zero => rfl
  | succ n ih =>
      rw [runOut, stepOut_of_finished h]
      exact ih

theorem runOut_add (hrun : r.runOut m = .ok r') (n : Nat) :
    r.runOut (m + n) = r'.runOut n := by
  induction m generalizing r with
  | zero =>
      cases hrun
      rw [Nat.zero_add]
  | succ m ih =>
      rw [runOut] at hrun
      rw [Nat.succ_add, runOut]
      cases hstep : r.stepOut with
      | error fault =>
          rw [hstep] at hrun
          cases hrun
      | ok r₁ =>
          rw [hstep] at hrun
          exact ih hrun

theorem runOut_succ (hrun : r.runOut m = .ok r') : r.runOut (m + 1) = r'.stepOut := by
  rw [runOut_add hrun, runOut]
  cases r'.stepOut <;> rfl

/-! ## Until the round is idle -/

theorem run_add (hrun : r.run m = .ok r') (n : Nat) : r.run (m + n) = r'.run n := by
  induction m generalizing r with
  | zero =>
      cases hrun
      rw [Nat.zero_add]
  | succ m ih =>
      obtain ⟨r₁, hstep, hrest⟩ := run_succ_eq_ok_iff.mp hrun
      rw [Nat.succ_add, run_of_step hstep]
      exact ih hrest

/-- Looking for a sink makes a difference only where the round is idle. -/
theorem stepOut_eq_step (hsize : 0 < r.tape.size) (h : ¬ r.Idle) :
    r.stepOut = r.step := by
  cases hfin : r.verdict.isFinished with
  | true => rw [stepOut_of_finished hfin, step_of_finished hfin]
  | false =>
      rcases Int.lt_or_le r.steps r.maxSteps with hleft | hspent
      · have hawake : r.inSink = .ok false := inSink_eq_false_of_ne hsize fun hsink =>
          h ⟨Verdict.eq_ongoing hfin, hleft, hsink⟩
        rw [stepOut_of_left hfin hleft, step_of_advance hfin hleft hawake]
      · rw [stepOut_of_spent hfin hspent, step_of_over hfin (.inl hspent)]

/-- A round that was never idle was played out. -/
theorem runOut_eq_run
    (hkeeps : ∀ a zero a' change, I a → a.step zero = .ok (a', change) → I a')
    (hparams : params.flaw? = none) (hwithin : r.Within I params)
    (h : ∀ m < n, ∀ r', r.run m = .ok r' → ¬ r'.Idle) : r.runOut n = r.run n := by
  induction n generalizing r with
  | zero => rfl
  | succ n ih =>
      have hnow : ¬ r.Idle := h 0 (Nat.succ_pos n) r rfl
      rw [runOut, stepOut_eq_step (hwithin.size_pos hparams) hnow, run]
      cases hstep : r.step with
      | error fault => rfl
      | ok r₁ =>
          refine ih (within_step hwithin hkeeps hstep) fun m hm r' hrun => ?_
          exact h (m + 1) (Nat.succ_lt_succ hm) r' ((run_of_step hstep m).trans hrun)

/-- An idle round was going on all the time, so none of the rounds before was idle: the
arena would have drawn it. -/
theorem Idle.not_idle_before (h : r'.Idle) (hrun : r.run n = .ok r') (hm : m < n)
    {r₁ : Arena} (hrun₁ : r.run m = .ok r₁) : ¬ r₁.Idle := by
  intro hidle
  obtain ⟨k, rfl⟩ : ∃ k, n = m + (k + 1) := ⟨n - m - 1, by omega⟩
  have hdraw : r₁.step = .ok { r₁ with verdict := .draw } :=
    step_of_over (by rw [hidle.going]; rfl) (.inr hidle.sink)
  have hend : r.run (m + (k + 1)) = .ok { r₁ with verdict := .draw } := by
    rw [run_add hrun₁, run_of_step hdraw]
    exact run_of_finished rfl k
  rw [hend] at hrun
  cases hrun
  cases h.going

/-! ## Behind the early draw -/

theorem Idle.step (h : r.Idle) : r.step = .ok { r with verdict := .draw } :=
  step_of_over (by rw [h.going]; rfl) (.inr h.sink)

theorem Idle.stepOut (h : r.Idle) (hwithin : r.Within I params) :
    r.stepOut = .ok { r with steps := r.steps + 1 } := by
  have hgoing : r.verdict.isFinished = false := by rw [h.going]; rfl
  rw [stepOut_of_left hgoing h.left, advance_of_inSink hwithin hgoing h.sink, ← h.going]

/-- As long as the budget lasts an idle round counts its steps. -/
theorem Idle.runOut (h : r.Idle) (hwithin : r.Within I params)
    (hm : (r.steps + m : Int) ≤ r.maxSteps) :
    r.runOut m = .ok { r with steps := r.steps + m } := by
  induction m with
  | zero => rfl
  | succ m ih =>
      have hleft : ((r.steps + m : Nat) : Int) < r.maxSteps := by omega
      have hidle : Idle { r with steps := r.steps + m } := ⟨h.going, hleft, h.sink⟩
      have hwithin' : Within I params { r with steps := r.steps + m } :=
        ⟨hwithin.size, hwithin.budget, Int.le_of_lt hleft, hwithin.keptA, hwithin.keptB,
          hwithin.nearA, hwithin.nearB, hwithin.onTapeA, hwithin.onTapeB⟩
      rw [runOut_succ (ih (Int.le_of_lt hleft)), hidle.stepOut hwithin']
      rfl

/-- Then the round is drawn. -/
theorem Idle.runOut_spent (h : r.Idle) (hwithin : r.Within I params) {budget : Nat}
    (hbudget : (budget : Int) = r.maxSteps) (hm : budget < r.steps + m) :
    r.runOut m = .ok { r with steps := budget, verdict := .draw } := by
  have hleft := h.left
  obtain ⟨k, rfl⟩ : ∃ k, m = (budget - r.steps) + (k + 1) :=
    ⟨m - (budget - r.steps) - 1, by omega⟩
  have hspent : r.runOut (budget - r.steps) = .ok { r with steps := budget } := by
    rw [h.runOut hwithin (by omega)]
    congr
    omega
  have hdraw : Arena.stepOut { r with steps := budget } =
      .ok { r with steps := budget, verdict := .draw } :=
    stepOut_of_spent (show r.verdict.isFinished = false by rw [h.going]; rfl)
      (Int.le_of_eq hbudget.symm)
  rw [runOut_add hspent, Arena.runOut, hdraw]
  exact runOut_of_finished rfl k

/-! ## Rounds beside played out rounds -/

/-- An idle round is reached by playing out, too. -/
theorem Idle.runOut_of_run (h : r'.Idle) (hparams : params.flaw? = none)
    (hwithin : r.Within Agent.Safe params) (hrun : r.run n = .ok r') :
    r.runOut n = .ok r' := by
  rw [← hrun]
  exact runOut_eq_run (fun _ _ _ _ hsafe hstep => hsafe.step hstep) hparams hwithin
    fun m hm _ hrun₁ => h.not_idle_before hrun hm hrun₁

/-- When the budget is used up, a round and the same round played out have come to the
same verdict. -/
theorem exists_runOut (hparams : params.flaw? = none)
    (hwithin : r.Within Agent.Safe params) (hrun : r.run n = .ok r')
    (hn : r.maxSteps < r.steps + n) :
    ∃ r'', r.runOut n = .ok r'' ∧ r''.verdict = r'.verdict := by
  by_cases hearly : ∃ s < n, ∃ r₁, r.run s = .ok r₁ ∧ r₁.Idle
  · obtain ⟨s, hs, r₁, hrun₁, hidle⟩ := hearly
    obtain ⟨m, rfl⟩ : ∃ m, n = s + (m + 1) := ⟨n - s - 1, by omega⟩
    have hwithin₁ : r₁.Within Agent.Safe params :=
      within_run (fun _ _ _ _ hsafe hstep => hsafe.step hstep) hwithin hrun₁
    have hsteps := steps_of_going hrun₁ (by rw [hidle.going]; rfl)
    have hmax : r₁.maxSteps = r.maxSteps := by rw [hwithin₁.budget, hwithin.budget]
    obtain ⟨budget, hbudget⟩ := Int.eq_ofNat_of_zero_le
      (show 0 ≤ r₁.maxSteps by have := hidle.left; omega)
    have hdraw : r' = { r₁ with verdict := .draw } := by
      rw [run_add hrun₁, run_of_step hidle.step, run_of_finished rfl] at hrun
      exact (Except.ok.inj hrun).symm
    refine ⟨{ r₁ with steps := budget, verdict := .draw }, ?_, by rw [hdraw]⟩
    rw [runOut_add (hidle.runOut_of_run hparams hwithin hrun₁)]
    exact hidle.runOut_spent hwithin₁ hbudget.symm (by omega)
  · refine ⟨r', ?_, rfl⟩
    rw [← hrun]
    exact runOut_eq_run (fun _ _ _ _ hsafe hstep => hsafe.step hstep) hparams hwithin
      fun m hm r₁ hrun₁ hidle => hearly ⟨m, hm, r₁, hrun₁, hidle⟩

end RunOut

end Arena

/-- Drawing a round early changes no verdict. A round of compiled bots in which the
arena does not look whether anything can still change comes to the verdict of the round
in which it does, and that is the verdict of the played round. The two differ only
behind an early draw: if the round is idle after `s` steps the arena draws it there,
while played out it goes on with the same tape and the same bots until its budget is
used up, and then it is drawn. -/
theorem early_draw_changes_no_verdict {sa sb : Source} {a b : Program}
    {params : RoundParams} (ha : sa.compile = .ok a) (hb : sb.compile = .ok b)
    (hparams : params.flaw? = none) :
    (∀ n : Nat, params.maxSteps.toInt < n → ∃ r r',
      (Arena.new a b params).run n = .ok r ∧
      (Arena.new a b params).runOut n = .ok r' ∧
      r.verdict.isFinished = true ∧ r'.verdict = r.verdict) ∧
    (params.hasRoom = true → ∃ r' steps,
      (Arena.new a b params).runOut (params.maxSteps.toNatClampNeg + 1) = .ok r' ∧
      Round.Ends a b params r'.verdict steps) ∧
    (∀ n, (∀ m < n, ∀ r, (Arena.new a b params).run m = .ok r → ¬ r.Idle) →
      (Arena.new a b params).runOut n = (Arena.new a b params).run n) ∧
    ∀ s r, (Arena.new a b params).run s = .ok r → r.Idle →
      r.steps = s ∧
      (Arena.new a b params).run (s + 1) = .ok { r with verdict := .draw } ∧
      (∀ n : Nat, s ≤ n → n ≤ params.maxSteps.toInt →
        (Arena.new a b params).runOut n = .ok { r with steps := n }) ∧
      ∀ n : Nat, params.maxSteps.toInt < n → (Arena.new a b params).runOut n =
        .ok { r with steps := params.maxSteps.toNatClampNeg, verdict := .draw } := by
  have hsa := Source.sound_of_compile ha
  have hsb := Source.sound_of_compile hb
  have hnew := Arena.within_new_of_sound hsa hsb hparams
  have hbudget : (params.maxSteps.toNatClampNeg : Int) = params.maxSteps.toInt :=
    Int.toNat_of_nonneg (RoundParams.bounds_of_flaw? hparams).2
  have hstart : (Arena.new a b params).maxSteps = params.maxSteps.toInt ∧
      (Arena.new a b params).steps = 0 := ⟨rfl, rfl⟩
  refine ⟨fun n hn => ?_, fun hroom => ?_, fun n => ?_, fun s r hrun h => ?_⟩
  · obtain ⟨r, hrun, hwithin⟩ := hnew.exists_run_of_safe hparams n
    obtain ⟨r', hout, hverdict⟩ := Arena.exists_runOut hparams hnew hrun (by omega)
    have hmax := hwithin.budget
    exact ⟨r, r', hrun, hout, Arena.finished_of_budget hwithin hrun (by omega), hverdict⟩
  · obtain ⟨r, hrun, hfin⟩ := Round.exists_final hsa hsb hparams
    obtain ⟨r', hout, hverdict⟩ := Arena.exists_runOut hparams hnew hrun (by omega)
    refine ⟨r', r.steps, hout, ?_⟩
    rw [hverdict]
    exact Round.ends_of_run hparams hroom hrun hfin
  · exact Arena.runOut_eq_run (fun _ _ _ _ hsafe hstep => hsafe.step hstep) hparams hnew
  · obtain ⟨_, hrun', hwithin⟩ := hnew.exists_run_of_safe hparams s
    rw [hrun] at hrun'
    cases hrun'
    have hsteps : r.steps = s :=
      (Arena.steps_of_going hrun (by rw [h.going]; rfl)).trans (Nat.zero_add s)
    have hout := h.runOut_of_run hparams hnew hrun
    have hmax := hwithin.budget
    have hleft := h.left
    refine ⟨hsteps, ?_, fun n hn hle => ?_, fun n hn => ?_⟩
    · rw [Arena.run_add hrun, Arena.run_of_step h.step]
      rfl
    · obtain ⟨m, rfl⟩ := Nat.exists_eq_add_of_le hn
      rw [Arena.runOut_add hout, h.runOut hwithin (by omega), hsteps]
    · obtain ⟨m, rfl⟩ : ∃ m, n = s + m := ⟨n - s, by omega⟩
      rw [Arena.runOut_add hout,
        h.runOut_spent hwithin (hbudget.trans hmax.symm) (by omega)]

/-- The theorem at a bot that ends in a counted loop, against one that waits. After two
steps both are done and the first has not ended, after three the round is idle. Played
out it goes on for all nine steps. -/
theorem early_draw_changes_no_verdict_trailing :
    ∃ a b r, (⟨"", "(.)*2"⟩ : Source).compile = .ok a ∧
      (⟨"", "."⟩ : Source).compile = .ok b ∧
      (⟨4, false, 9⟩ : RoundParams).flaw? = none ∧
      (Arena.new a b ⟨4, false, 9⟩).run 3 = .ok r ∧ r.Idle ∧
      (Arena.new a b ⟨4, false, 9⟩).run 4 = .ok { r with verdict := .draw } ∧
      (Arena.new a b ⟨4, false, 9⟩).runOut 9 = .ok { r with steps := 9 } ∧
      (Arena.new a b ⟨4, false, 9⟩).runOut 10 =
        .ok { r with steps := 9, verdict := .draw } := by
  have ha : (⟨"", "(.)*2"⟩ : Source).compile =
      .ok (Block.program (.times (.act .rest .done) 2 .done)) := by cbv
  have hb : (⟨"", "."⟩ : Source).compile = .ok (Block.program (.act .rest .done)) := by
    cbv
  have hparams : (⟨4, false, 9⟩ : RoundParams).flaw? = none := by decide
  obtain ⟨r, hrun, h⟩ :
      ∃ r, (Arena.new (Block.program (.times (.act .rest .done) 2 .done))
      (Block.program (.act .rest .done)) ⟨4, false, 9⟩).run 3 = .ok r ∧ r.Idle :=
    ⟨_, rfl, ⟨rfl, by decide, rfl⟩⟩
  obtain ⟨-, -, -, hidle⟩ := early_draw_changes_no_verdict ha hb hparams
  obtain ⟨-, hdrawn, hout, hspent⟩ := hidle 3 r hrun h
  exact ⟨_, _, r, ha, hb, hparams, hrun, h, hdrawn, hout 9 (by decide) (by decide),
    hspent 10 (by decide)⟩

end TapeDuel
