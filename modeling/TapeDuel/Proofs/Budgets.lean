import TapeDuel.Proofs.SafeRounds

/-!
# Rounds under other budgets

A round looks at its budget in one place only, before a step, and what a step does
does not depend on it. So two rounds that differ in nothing but their budgets go
together until the smaller budget is used up.

Playing a round is told here without fuel. `Round.Finishes` has one rule for each way
in which the player can go on from a round that is not over: a draw, a step that
decides the round, or a step after which it is played on. A budget appears in the
first two premises of each rule and nowhere else, and what becomes of a round under
another budget is read off by induction on the rules: either the budget still has room
for all the steps, and then the same rules apply, or it runs out at one of them.
-/

namespace TapeDuel

theorem RoundParams.flaw?_eq_none {params : RoundParams}
    (hlength : 2 ≤ params.tapeLength.toInt) (hsteps : 0 ≤ params.maxSteps.toInt) :
    params.flaw? = none := by
  have hlong : ¬ params.tapeLength < 2 := by
    rw [Int64.lt_iff_toInt_lt]
    exact Int.not_lt.mpr hlength
  have hnonneg : ¬ params.maxSteps < 0 := by
    rw [Int64.lt_iff_toInt_lt]
    exact Int.not_lt.mpr hsteps
  rw [flaw?, if_neg hlong, if_neg hnonneg]

namespace Arena

/-- The same round with another budget. -/
def withBudget (r : Arena) (budget : Int) : Arena :=
  { r with maxSteps := budget }

theorem advance_withBudget {r r' : Arena} (h : r.advance = .ok r') (budget : Int) :
    (r.withBudget budget).advance = .ok (r'.withBudget budget) := by
  obtain ⟨aWas, bWas, a, aChange, b, bChange, middle, tape, aIs, bIs, haWas, hbWas,
    hta, htb, hmiddle, htape, haIs, hbIs, rfl⟩ := advance_eq_ok_iff.mp h
  exact advance_eq_ok_iff.mpr ⟨aWas, bWas, a, aChange, b, bChange, middle, tape, aIs,
    bIs, haWas, hbWas, hta, htb, hmiddle, htape, haIs, hbIs, rfl⟩

end Arena

/-! ## Playing without fuel -/

namespace Round

/-- The number of inquiries made once a step is done, unless the answer was to
stop. -/
def inquire? (interrupts : Interrupts) (done asked : Nat) : Option Nat :=
  if done % checkInterval = 0 then
    if interrupts asked then none else some (asked + 1)
  else some asked

theorem proceed_of_step {r r' : Arena} (h : r.step = .ok r') (interrupts : Interrupts)
    (fuel done asked : Nat) :
    proceed interrupts (fuel + 1) r done asked =
      if r'.verdict.isFinished then (.finished r'.verdict r'.steps, asked)
      else
        match inquire? interrupts (done + 1) asked with
        | none => (.canceled r'.steps, asked + 1)
        | some asked' => proceed interrupts fuel r' (done + 1) asked' := by
  rw [proceed, h, inquire?]
  dsimp only
  split
  · rfl
  · split
    · split <;> rfl
    · rfl

/-- A round that is not over is played to this verdict, with so many steps, and so many
inquiries are made by then. -/
inductive Finishes (interrupts : Interrupts) (verdict : Verdict) (steps asked' : Nat) :
    Arena → Nat → Nat → Prop where
  | draws {r : Arena} {done : Nat} (going : r.verdict.isFinished = false)
      (ends : r.maxSteps ≤ r.steps ∨ r.inSink = .ok true)
      (drawn : verdict = .draw) (count : steps = r.steps) :
      Finishes interrupts verdict steps asked' r done asked'
  | decides {r r' : Arena} {done : Nat} (going : r.verdict.isFinished = false)
      (left : (r.steps : Int) < r.maxSteps) (awake : r.inSink = .ok false)
      (move : r.advance = .ok r') (ends : r'.verdict.isFinished = true)
      (decided : verdict = r'.verdict) (count : steps = r'.steps) :
      Finishes interrupts verdict steps asked' r done asked'
  | goes {r r' : Arena} {done asked asked₁ : Nat}
      (going : r.verdict.isFinished = false)
      (left : (r.steps : Int) < r.maxSteps) (awake : r.inSink = .ok false)
      (move : r.advance = .ok r')
      (ask : inquire? interrupts (done + 1) asked = some asked₁)
      (rest : Finishes interrupts verdict steps asked' r' (done + 1) asked₁) :
      Finishes interrupts verdict steps asked' r done asked

section Finishes

variable {interrupts : Interrupts} {verdict : Verdict}
    {steps asked' done asked fuel : Nat} {r : Arena}

theorem Finishes.going (h : Finishes interrupts verdict steps asked' r done asked) :
    r.verdict.isFinished = false := by
  cases h <;> assumption

theorem finishes_of_proceed (hgoing : r.verdict.isFinished = false)
    (h : proceed interrupts fuel r done asked = (.finished verdict steps, asked')) :
    Finishes interrupts verdict steps asked' r done asked := by
  induction fuel generalizing r done asked with
  | zero => cases h
  | succ fuel ih =>
      cases hstep : r.step with
      | error fault =>
          rw [proceed, hstep] at h
          cases h
      | ok r' =>
          rw [proceed_of_step hstep] at h
          rcases Arena.step_cases hstep with ⟨hfin, -⟩ | ⟨-, hover, rfl⟩ |
            ⟨-, hleft, hawake, hmove⟩
          · rw [hgoing] at hfin
            cases hfin
          · rw [if_pos (by rfl)] at h
            cases h
            exact .draws hgoing hover rfl rfl
          · split at h
            · next hover =>
                cases h
                exact .decides hgoing hleft hawake hmove hover rfl rfl
            · next hgoing' =>
                split at h
                · cases h
                · next asked₁ hask =>
                    exact .goes hgoing hleft hawake hmove hask
                      (ih (eq_false_of_ne_true hgoing') h)

/-- Fuel for one step more than the budget allows is enough. -/
theorem Finishes.proceed_eq (h : Finishes interrupts verdict steps asked' r done asked)
    (hpos : 0 < fuel) (hfuel : r.maxSteps < r.steps + fuel) :
    proceed interrupts fuel r done asked = (.finished verdict steps, asked') := by
  induction h generalizing fuel with
  | draws going ends drawn count =>
      obtain ⟨fuel, rfl⟩ := Nat.exists_eq_add_of_lt hpos
      rw [Nat.zero_add, proceed_of_step (Arena.step_of_over going ends), if_pos (by rfl),
        drawn, count]
  | decides going left awake move ends decided count =>
      obtain ⟨fuel, rfl⟩ := Nat.exists_eq_add_of_lt hpos
      rw [Nat.zero_add,
        proceed_of_step ((Arena.step_of_advance going left awake).trans move),
        if_pos ends, decided, count]
  | @goes r r' done asked asked₁ going left awake move ask rest ih =>
      obtain ⟨fuel, rfl⟩ := Nat.exists_eq_add_of_lt hpos
      have hsteps := Arena.steps_of_advance move
      have hbudget := Arena.maxSteps_of_advance move
      rw [Nat.zero_add,
        proceed_of_step ((Arena.step_of_advance going left awake).trans move),
        if_neg (ne_true_of_eq_false rest.going), ask]
      exact ih (by omega) (by omega)

/-! ## Steps and budgets -/

theorem Finishes.le_steps (h : Finishes interrupts verdict steps asked' r done asked) :
    r.steps ≤ steps := by
  induction h with
  | draws going ends drawn count => exact Nat.le_of_eq count.symm
  | decides going left awake move ends decided count =>
      rw [count, Arena.steps_of_advance move]
      exact Nat.le_succ _
  | goes going left awake move ask rest ih =>
      rw [Arena.steps_of_advance move] at ih
      exact Nat.le_of_succ_le ih

theorem Finishes.steps_le (h : Finishes interrupts verdict steps asked' r done asked)
    (hle : (r.steps : Int) ≤ r.maxSteps) : (steps : Int) ≤ r.maxSteps := by
  induction h with
  | draws going ends drawn count => rwa [count]
  | decides going left awake move ends decided count =>
      rw [count, Arena.steps_of_advance move]
      exact left
  | goes going left awake move ask rest ih =>
      rw [Arena.steps_of_advance move, Arena.maxSteps_of_advance move] at ih
      exact ih left

/-- A budget with room for all the steps changes nothing. That the round was not ended
by its own budget is known from the steps that were left, or from the winner. -/
theorem Finishes.withBudget (h : Finishes interrupts verdict steps asked' r done asked)
    (hearly : (steps : Int) < r.maxSteps ∨ verdict.hasWinner = true) {budget : Int}
    (hroom : (steps : Int) ≤ budget) :
    Finishes interrupts verdict steps asked' (r.withBudget budget) done asked := by
  induction h with
  | @draws r done going ends drawn count =>
      have hsink : r.inSink = .ok true := by
        refine ends.resolve_left fun hspent => ?_
        rcases hearly with hleft | hwinner
        · omega
        · rw [drawn] at hwinner
          cases hwinner
      exact .draws going (.inr hsink) drawn count
  | @decides r r' done going left awake move ends decided count =>
      have hsteps := Arena.steps_of_advance move
      exact .decides going (show (r.steps : Int) < budget by omega) awake
        (Arena.advance_withBudget move budget) ends decided count
  | @goes r r' done asked asked₁ going left awake move ask rest ih =>
      have hsteps := Arena.steps_of_advance move
      have hlater := rest.le_steps
      rw [Arena.maxSteps_of_advance move] at ih
      exact .goes going (show (r.steps : Int) < budget by omega) awake
        (Arena.advance_withBudget move budget) ask (ih hearly)

/-- A smaller budget ends the round when it is used up. -/
theorem Finishes.truncated (h : Finishes interrupts verdict steps asked' r done asked)
    {budget : Nat} (hle : r.steps ≤ budget) (hlt : budget < steps) :
    ∃ asked'', Finishes interrupts .draw budget asked'' (r.withBudget budget) done
      asked := by
  induction h with
  | draws going ends drawn count => omega
  | @decides r r' done going left awake move ends decided count =>
      have hsteps := Arena.steps_of_advance move
      have hspent : budget = r.steps := by omega
      exact ⟨_, .draws going (.inl (show (budget : Int) ≤ r.steps by omega)) rfl hspent⟩
  | @goes r r' done asked asked₁ going left awake move ask rest ih =>
      have hsteps := Arena.steps_of_advance move
      rcases Nat.lt_or_ge r.steps budget with hroom | hspent
      · obtain ⟨asked'', hrest⟩ := ih (by omega)
        exact ⟨asked'', .goes going (show (r.steps : Int) < budget by omega) awake
          (Arena.advance_withBudget move budget) ask hrest⟩
      · have hspent : budget = r.steps := by omega
        exact ⟨_, .draws going (.inl (show (budget : Int) ≤ r.steps by omega)) rfl
          hspent⟩

end Finishes

/-! ## Two budgets for one round -/

section Play

variable {interrupts : Interrupts} {asked asked' : Nat} {a b : Program}
  {params : RoundParams} {verdict : Verdict} {steps : Nat}

/-- A played round, without its fuel. -/
theorem finishes_of_play
    (h : play interrupts asked a b params = .ok (.finished verdict steps, asked')) :
    params.flaw? = none ∧ params.hasRoom = true ∧
      Finishes interrupts verdict steps asked' (Arena.new a b params) 0 asked := by
  cases hflaw : params.flaw? with
  | some flaw =>
      rw [play_of_flaw hflaw] at h
      cases h
  | none =>
      cases hroom : params.hasRoom with
      | false =>
          rw [play_of_no_room hflaw hroom] at h
          cases h
      | true =>
          rw [play_eq_proceed hflaw hroom] at h
          exact ⟨rfl, rfl, finishes_of_proceed rfl (Except.ok.inj h)⟩

theorem Finishes.play_eq
    (h : Finishes interrupts verdict steps asked' (Arena.new a b params) 0 asked)
    (hflaw : params.flaw? = none) (hroom : params.hasRoom = true) :
    play interrupts asked a b params = .ok (.finished verdict steps, asked') := by
  have hsteps := (RoundParams.bounds_of_flaw? hflaw).2
  have hfuel : (params.maxSteps.toNatClampNeg : Int) = params.maxSteps.toInt :=
    Int.toNat_of_nonneg hsteps
  rw [play_eq_proceed hflaw hroom, h.proceed_eq (Nat.succ_pos _)]
  show params.maxSteps.toInt < ((0 : Nat) : Int) + _
  omega

end Play

end Round

/-- The budget only cuts a round short. A round that ended with steps to spare, or with
a winner, ends the same way under every budget that has room for its steps, and in a
draw under every smaller one. So a bot that wins under some budget wins under every
larger one. That holds whatever the programs are, and however often the player asks
whether to stop. -/
theorem Round.budget_only_truncates {interrupts : Interrupts} {asked asked' : Nat}
    {a b : Program} {length : Int64} {inverted : Bool} {budget : Int64}
    {verdict : Verdict} {steps : Nat}
    (h : play interrupts asked a b ⟨length, inverted, budget⟩ =
      .ok (.finished verdict steps, asked'))
    (hearly : (steps : Int) < budget.toInt ∨ verdict.hasWinner = true)
    {budget' : Int64} (hbudget' : 0 ≤ budget'.toInt) :
    ((steps : Int) ≤ budget'.toInt →
      play interrupts asked a b ⟨length, inverted, budget'⟩ =
        .ok (.finished verdict steps, asked')) ∧
    (budget'.toInt < steps →
      ∃ asked'', play interrupts asked a b ⟨length, inverted, budget'⟩ =
        .ok (.finished .draw budget'.toNatClampNeg, asked'')) ∧
    (verdict.hasWinner = true → budget.toInt ≤ budget'.toInt →
      play interrupts asked a b ⟨length, inverted, budget'⟩ =
        .ok (.finished verdict steps, asked')) := by
  obtain ⟨hflaw, hroom, hfinishes⟩ := finishes_of_play h
  obtain ⟨hlength, hbudget⟩ := RoundParams.bounds_of_flaw? hflaw
  have hflaw' : (⟨length, inverted, budget'⟩ : RoundParams).flaw? = none :=
    RoundParams.flaw?_eq_none hlength hbudget'
  have hroom' : (⟨length, inverted, budget'⟩ : RoundParams).hasRoom = true := hroom
  have henough : (steps : Int) ≤ budget'.toInt →
      play interrupts asked a b ⟨length, inverted, budget'⟩ =
        .ok (.finished verdict steps, asked') := by
    intro hle
    have hsame := hfinishes.withBudget hearly hle
    exact Finishes.play_eq hsame hflaw' hroom'
  refine ⟨henough, ?_, ?_⟩
  · intro hlt
    have hnat : (budget'.toNatClampNeg : Int) = budget'.toInt :=
      Int.toNat_of_nonneg hbudget'
    have hbelow : budget'.toNatClampNeg < steps := by omega
    obtain ⟨asked'', hcut⟩ := hfinishes.truncated (Nat.zero_le _) hbelow
    rw [hnat] at hcut
    exact ⟨asked'', Finishes.play_eq hcut hflaw' hroom'⟩
  · intro _ hle
    have hsteps : (steps : Int) ≤ budget.toInt := hfinishes.steps_le hbudget
    exact henough (Int.le_trans hsteps hle)

/-- The theorem at a bot that walks off the tape with its last step: against a bot that
rests on its flag it loses under every budget from two steps on, and under a budget
of one step the round is drawn. -/
theorem Round.budget_only_truncates_last_step :
    ∃ a b : Program, compile "." = .ok a ∧ compile ">>" = .ok b ∧
      (∃ asked, play .never 0 a b ⟨2, false, 2⟩ = .ok (.finished .aWins 2, asked)) ∧
      (∃ asked, play .never 0 a b ⟨2, false, 100000⟩ =
        .ok (.finished .aWins 2, asked)) ∧
      ∃ asked, play .never 0 a b ⟨2, false, 1⟩ = .ok (.finished .draw 1, asked) := by
  have ha : compile "." = .ok #[.plain .rest] := by cbv
  have hb : compile ">>" = .ok #[.plain .moveForward, .plain .moveForward] := by cbv
  have hplay : play .never 0 #[.plain .rest] #[.plain .moveForward, .plain .moveForward]
      ⟨2, false, 2⟩ = .ok (.finished .aWins 2, 0) := by cbv
  obtain ⟨-, -, hlarger⟩ := budget_only_truncates hplay (.inr rfl)
    (show 0 ≤ (100000 : Int64).toInt by decide)
  obtain ⟨-, hsmaller, -⟩ := budget_only_truncates hplay (.inr rfl)
    (show 0 ≤ (1 : Int64).toInt by decide)
  exact ⟨_, _, ha, hb, ⟨0, hplay⟩, ⟨0, hlarger rfl (by decide)⟩, hsmaller (by decide)⟩

end TapeDuel
