import TapeDuel.Proofs.Budgets
import TapeDuel.Proofs.PlayedGames

/-!
# Stopping alters no result

Whoever plays rounds asks from time to time whether to stop, and the answers may be
any sequence at all. The undisturbed play, in which nobody ever says stop, makes so
many inquiries; if all of them are answered with going on, nothing differs from it, and
if one is not, the first such ends the play (`Interrupts.FirstStop`). So two things
can become of a round or of a game, and the answers decide which.

The inquiries of a round come after every 4096 steps, so the number of the last one
says how many steps were made. A game asks before each round as well, and what it has
added up by the time it is stopped is dropped: a game that returns a result at all
returns all of its rounds.
-/

namespace TapeDuel

namespace Interrupts

/-- The inquiries from `first` on and before `last` find nobody who says stop. -/
structure Silent (interrupts : Interrupts) (first last : Nat) : Prop where
  le : first ≤ last
  silent : ∀ i, first ≤ i → i < last → interrupts i = false

/-- Inquiry `n` is the first from `first` on that is answered with stop. -/
structure FirstStop (interrupts : Interrupts) (first n : Nat) : Prop where
  before : interrupts.Silent first n
  stops : interrupts n = true

variable {interrupts : Interrupts} {first last n : Nat}

theorem silent_self (interrupts : Interrupts) (n : Nat) : interrupts.Silent n n :=
  ⟨Nat.le_refl n, fun _ hle hlt => absurd hle (Nat.not_le.mpr hlt)⟩

theorem silent_succ (h : interrupts n = false) : interrupts.Silent n (n + 1) := by
  refine ⟨Nat.le_succ n, fun i hle hlt => ?_⟩
  obtain rfl : i = n := by omega
  exact h

theorem Silent.trans (h : interrupts.Silent first n) (h' : interrupts.Silent n last) :
    interrupts.Silent first last :=
  ⟨Nat.le_trans h.le h'.le, fun i hle hlt =>
    (Nat.lt_or_ge i n).elim (h.silent i hle) fun hn => h'.silent i hn hlt⟩

theorem firstStop_self (h : interrupts n = true) : interrupts.FirstStop n n :=
  ⟨interrupts.silent_self n, h⟩

theorem FirstStop.of_silent (h : interrupts.FirstStop n last)
    (hsilent : interrupts.Silent first n) : interrupts.FirstStop first last :=
  ⟨hsilent.trans h.before, h.stops⟩

end Interrupts

/-! ## Rounds -/

/-- A step that leaves the round going counts. -/
theorem Arena.steps_of_step {r r' : Arena} (hgoing : r.verdict.isFinished = false)
    (hstep : r.step = .ok r') (hgoing' : r'.verdict.isFinished = false) :
    r'.steps = r.steps + 1 := by
  rcases step_cases hstep with ⟨hfin, -⟩ | ⟨-, -, rfl⟩ | ⟨-, -, -, hmove⟩
  · rw [hgoing] at hfin
    cases hfin
  · cases hgoing'
  · exact steps_of_advance hmove

namespace Round

variable {interrupts : Interrupts} {done asked asked' : Nat}

theorem inquire?_of_stop (hask : done % checkInterval = 0)
    (hstop : interrupts asked = true) : inquire? interrupts done asked = none := by
  rw [inquire?, if_pos hask, if_pos hstop]

theorem inquire?_of_silent (hask : done % checkInterval = 0)
    (hstop : interrupts asked = false) :
    inquire? interrupts done asked = some (asked + 1) := by
  rw [inquire?, if_pos hask, if_neg (ne_true_of_eq_false hstop)]

theorem inquire?_between (hask : ¬ done % checkInterval = 0) :
    inquire? interrupts done asked = some asked := by
  rw [inquire?, if_neg hask]

theorem le_of_inquire? (h : inquire? interrupts done asked = some asked') :
    asked ≤ asked' := by
  by_cases hask : done % checkInterval = 0
  · cases hstop : interrupts asked with
    | true =>
        rw [inquire?_of_stop hask hstop] at h
        cases h
    | false =>
        rw [inquire?_of_silent hask hstop] at h
        cases h
        exact Nat.le_succ asked
  · rw [inquire?_between hask] at h
    cases h
    exact Nat.le_refl asked

/-- Inquiries are counted upwards. -/
theorem le_asked_proceed (interrupts : Interrupts) (fuel : Nat) (r : Arena)
    (done asked : Nat) : asked ≤ (proceed interrupts fuel r done asked).2 := by
  induction fuel generalizing r done asked with
  | zero => exact Nat.le_refl asked
  | succ fuel ih =>
      cases hstep : r.step with
      | error fault => rw [proceed, hstep]
      | ok r' =>
          rw [proceed_of_step hstep]
          split
          · exact Nat.le_refl asked
          · split
            · exact Nat.le_succ asked
            · next asked' hask =>
                exact Nat.le_trans (le_of_inquire? hask) (ih r' (done + 1) asked')

/-- A round goes undisturbed, or it is stopped by the first inquiry that says so. There
was one inquiry for every 4096 steps. -/
theorem proceed_cases (interrupts : Interrupts) (fuel : Nat) {base : Nat} {r : Arena}
    {done asked : Nat} (hgoing : r.verdict.isFinished = false) (hdone : r.steps = done)
    (hasked : asked = base + done / checkInterval) :
    (interrupts.Silent asked (proceed .never fuel r done asked).2 ∧
      proceed interrupts fuel r done asked = proceed .never fuel r done asked) ∨
    ∃ n < (proceed .never fuel r done asked).2, interrupts.FirstStop asked n ∧
      proceed interrupts fuel r done asked =
        (.canceled (checkInterval * (n + 1 - base)), n + 1) := by
  induction fuel generalizing r done asked with
  | zero => exact .inl ⟨interrupts.silent_self asked, rfl⟩
  | succ fuel ih =>
      cases hstep : r.step with
      | error fault =>
          have hfault : ∀ i : Interrupts, proceed i (fuel + 1) r done asked =
              (.faulted fault r.steps, asked) := fun i => by rw [proceed, hstep]
          rw [hfault, hfault]
          exact .inl ⟨interrupts.silent_self asked, rfl⟩
      | ok r' =>
          rw [proceed_of_step hstep, proceed_of_step hstep]
          cases hfin : r'.verdict.isFinished with
          | true => exact .inl ⟨interrupts.silent_self asked, rfl⟩
          | false =>
              have hdone' : r'.steps = done + 1 := by
                rw [Arena.steps_of_step hgoing hstep hfin, hdone]
              simp only [Bool.false_eq_true, if_false]
              by_cases hask : (done + 1) % checkInterval = 0
              · have hnext : asked + 1 = base + (done + 1) / checkInterval := by
                  rw [checkInterval] at hask hasked ⊢
                  omega
                have hnever : Interrupts.never asked = false := rfl
                rw [inquire?_of_silent hask hnever]
                cases hstop : interrupts asked with
                | true =>
                    rw [inquire?_of_stop hask hstop]
                    refine .inr ⟨asked, le_asked_proceed .never fuel r' (done + 1)
                      (asked + 1), Interrupts.firstStop_self hstop, ?_⟩
                    have hsteps : checkInterval * (asked + 1 - base) = r'.steps := by
                      rw [hdone', hnext, Nat.add_sub_cancel_left]
                      exact Nat.mul_div_cancel' (Nat.dvd_of_mod_eq_zero hask)
                    rw [hsteps]
                | false =>
                    rw [inquire?_of_silent hask hstop]
                    have hone := Interrupts.silent_succ hstop
                    rcases ih hfin hdone' hnext with
                      ⟨hsilent, hsame⟩ | ⟨n, hn, hfirst, hend⟩
                    · exact .inl ⟨hone.trans hsilent, hsame⟩
                    · exact .inr ⟨n, hn, hfirst.of_silent hone, hend⟩
              · rw [inquire?_between hask, inquire?_between hask]
                refine ih hfin hdone' ?_
                rw [checkInterval] at hask hasked ⊢
                omega

/-- What can become of a round that may be stopped, for any programs and parameters. -/
theorem play_cases (interrupts : Interrupts) (asked : Nat) (a b : Program)
    (params : RoundParams) :
    (play interrupts asked a b params = play .never asked a b params ∧
      ∀ e asked', play .never asked a b params = .ok (e, asked') →
        interrupts.Silent asked asked') ∨
    ∃ k e asked', asked + k < asked' ∧ interrupts.FirstStop asked (asked + k) ∧
      play .never asked a b params = .ok (e, asked') ∧
      play interrupts asked a b params =
        .ok (.canceled (checkInterval * (k + 1)), asked + (k + 1)) := by
  cases hflaw : params.flaw? with
  | some flaw =>
      rw [play_of_flaw hflaw, play_of_flaw hflaw]
      refine .inl ⟨rfl, fun e asked' hplay => ?_⟩
      cases hplay
  | none =>
      cases hroom : params.hasRoom with
      | false =>
          rw [play_of_no_room hflaw hroom, play_of_no_room hflaw hroom]
          refine .inl ⟨rfl, fun e asked' hplay => ?_⟩
          cases hplay
          exact interrupts.silent_self asked
      | true =>
          rw [play_eq_proceed hflaw hroom, play_eq_proceed hflaw hroom]
          have hstart : asked = asked + 0 / checkInterval := by
            rw [Nat.zero_div, Nat.add_zero]
          have hsteps : (Arena.new a b params).steps = 0 := rfl
          rcases proceed_cases interrupts (params.maxSteps.toNatClampNeg + 1) rfl
            hsteps hstart with ⟨hsilent, hsame⟩ | ⟨n, hn, hfirst, hcanceled⟩
          · refine .inl ⟨congrArg Except.ok hsame, fun e asked' hplay => ?_⟩
            rw [Except.ok.inj hplay] at hsilent
            exact hsilent
          · obtain ⟨k, rfl⟩ := Nat.exists_eq_add_of_le hfirst.before.le
            refine .inr ⟨k, _, _, hn, hfirst, rfl, ?_⟩
            rw [hcanceled, show asked + k + 1 - asked = k + 1 by omega]
            rfl

end Round

/-! ## Games -/

namespace Game

/-- How a game fails that was stopped before one of these rounds, or in it. -/
def Stopped (rounds : List RoundParams) (failure : Failure) : Prop :=
  failure = .canceled ∨
    ∃ params ∈ rounds, failure = .within s!"round {params.describe}" .canceled

variable {a b : Program}

theorem playRound_cases (interrupts : Interrupts) (params : RoundParams)
    (s : GameState) :
    (interrupts.Silent s.asked (playRound .never a b params s).2.asked ∧
      playRound interrupts a b params s = playRound .never a b params s) ∨
    ∃ n failure s', interrupts.FirstStop s.asked n ∧ Stopped [params] failure ∧
      playRound interrupts a b params s = (.error failure, s') := by
  cases hstop : interrupts s.asked with
  | true =>
      refine .inr ⟨s.asked, .canceled, { s with asked := s.asked + 1 },
        Interrupts.firstStop_self hstop, .inl rfl, ?_⟩
      rw [playRound, if_pos hstop]
  | false =>
      have hone := Interrupts.silent_succ hstop
      rw [playRound, playRound, if_neg (ne_true_of_eq_false hstop),
        if_neg (show ¬ Interrupts.never s.asked = true from Bool.false_ne_true)]
      rcases Round.play_cases interrupts (s.asked + 1) a b params with
        ⟨hsame, hsilent⟩ | ⟨k, e, asked', -, hfirst, -, hcanceled⟩
      · rw [hsame]
        refine .inl ⟨?_, rfl⟩
        rcases hplay : Round.play .never (s.asked + 1) a b params with flaw | ⟨e, asked'⟩
        · exact interrupts.silent_self s.asked
        · have hall := hone.trans (hsilent e asked' hplay)
          cases e <;> exact hall
      · rw [hcanceled]
        exact .inr ⟨_, _, _, hfirst.of_silent hone,
          .inr ⟨params, List.mem_singleton_self params, rfl⟩, rfl⟩

theorem run_task_cases (interrupts : Interrupts) (rounds : List RoundParams)
    (s : GameState) :
    (interrupts.Silent s.asked ((task .never a b rounds).run s).2.asked ∧
      (task interrupts a b rounds).run s = (task .never a b rounds).run s) ∨
    ∃ n failure s', interrupts.FirstStop s.asked n ∧ Stopped rounds failure ∧
      (task interrupts a b rounds).run s = (.error failure, s') := by
  induction rounds generalizing s with
  | nil =>
      rw [run_task_nil, run_task_nil]
      exact .inl ⟨interrupts.silent_self s.asked, rfl⟩
  | cons params rounds ih =>
      rw [run_task_cons, run_task_cons]
      rcases playRound_cases (a := a) (b := b) interrupts params s with
        ⟨hsilent, hsame⟩ | ⟨n, failure, s', hfirst, hstopped, hround⟩
      · rw [hsame]
        rcases hround : playRound .never a b params s with ⟨failure | ⟨⟩, s₁⟩ <;>
          rw [hround] at hsilent
        · exact .inl ⟨hsilent, rfl⟩
        · rcases ih s₁ with ⟨hrest, hsame₁⟩ | ⟨n, failure, s', hfirst, hstopped, hrun⟩
          · exact .inl ⟨hsilent.trans hrest, hsame₁⟩
          · refine .inr ⟨n, failure, s', hfirst.of_silent hsilent, ?_, hrun⟩
            exact hstopped.imp_right fun ⟨p, hp, h⟩ =>
              ⟨p, List.mem_cons_of_mem params hp, h⟩
      · rw [hround]
        refine .inr ⟨n, failure, s', hfirst, ?_, rfl⟩
        exact hstopped.imp_right fun ⟨p, hp, h⟩ =>
          ⟨p, List.mem_singleton.mp hp ▸ List.mem_cons_self, h⟩

/-- What can become of a game that may be stopped, for any programs and rounds. -/
theorem play_cases (interrupts : Interrupts) (a b : Program) (rounds : Rounds) :
    play interrupts a b rounds = play .never a b rounds ∨
    ∃ n failure, interrupts.FirstStop 0 n ∧ Stopped rounds.toList failure ∧
      play interrupts a b rounds = .error failure := by
  rw [play, play]
  cases rounds.flaw? with
  | some flaw => exact .inl rfl
  | none =>
      rcases run_task_cases (a := a) (b := b) interrupts rounds.toList ⟨0, .empty⟩ with
        ⟨-, hsame⟩ | ⟨n, failure, s', hfirst, hstopped, hrun⟩
      · rw [hsame]
        exact .inl rfl
      · rw [hrun]
        exact .inr ⟨n, failure, hfirst, hstopped, rfl⟩

end Game

/-- Stopping alters no result, whatever is answered to the inquiries. A round is
played as if nobody were asked, and then nobody said stop as long as it lasted; or it
is stopped at the first inquiry, the `k`-th, that says so, after exactly `4096 * k`
steps. A game has the result that it has undisturbed, or it fails because it was
stopped: if there is a result it has all the rounds of the sequence. Undisturbed, bots
that are compiled play every valid round to a verdict and every valid game to a
result, if the tapes fit into memory. -/
theorem stopping_alters_no_result {sa sb : Source} {a b : Program}
    (ha : sa.compile = .ok a) (hb : sb.compile = .ok b) :
    (∀ interrupts asked params,
      (Round.play interrupts asked a b params = Round.play .never asked a b params ∧
        ∀ e asked', Round.play .never asked a b params = .ok (e, asked') →
          ∀ i, asked ≤ i → i < asked' → interrupts i = false) ∨
      ∃ k, 0 < k ∧ interrupts (asked + (k - 1)) = true ∧
        (∀ i, asked ≤ i → i < asked + (k - 1) → interrupts i = false) ∧
        Round.play interrupts asked a b params =
          .ok (.canceled (4096 * k), asked + k) ∧
        ∃ e asked', Round.play .never asked a b params = .ok (e, asked') ∧
          asked + k ≤ asked') ∧
    (∀ interrupts rounds,
      Game.play interrupts a b rounds = Game.play .never a b rounds ∨
      (∃ n, interrupts n = true) ∧ ∃ failure, Game.Stopped rounds.toList failure ∧
        Game.play interrupts a b rounds = .error failure) ∧
    (∀ interrupts rounds result, Game.play interrupts a b rounds = .ok result →
      Game.play .never a b rounds = .ok result ∧
      result.rounds.toList.map RoundRecord.params = rounds.toList ∧
      result = result.rounds.toList.foldl GameResult.add .empty) ∧
    (∀ asked params, params.flaw? = none → params.hasRoom = true →
      ∃ verdict steps asked', Round.play .never asked a b params =
        .ok (.finished verdict steps, asked')) ∧
    ∀ rounds : Rounds, rounds.flaw? = none →
      (∀ params ∈ rounds.toList, params.hasRoom = true) →
      ∃ result, Game.play .never a b rounds = .ok result := by
  have hsa := Source.sound_of_compile ha
  have hsb := Source.sound_of_compile hb
  refine ⟨fun interrupts asked params => ?_, fun interrupts rounds => ?_,
    fun interrupts rounds result hplay => ⟨Game.play_never hplay,
      Game.records_of_play hplay⟩, fun asked params hparams hroom =>
        Round.exists_verdict hsa hsb hparams hroom asked, fun rounds hvalid hroom =>
          Game.exists_result hsa hsb hvalid hroom⟩
  · rcases Round.play_cases interrupts asked a b params with
      ⟨hsame, hsilent⟩ | ⟨k, e, asked', hlt, hfirst, hnever, hcanceled⟩
    · exact .inl ⟨hsame, fun e asked' hplay => (hsilent e asked' hplay).silent⟩
    · exact .inr ⟨k + 1, Nat.succ_pos k, hfirst.stops, hfirst.before.silent,
        hcanceled, e, asked', hnever, hlt⟩
  · refine (Game.play_cases interrupts a b rounds).imp_right ?_
    rintro ⟨n, failure, hfirst, hstopped, hplay⟩
    exact ⟨⟨n, hfirst.stops⟩, failure, hstopped, hplay⟩

/-- The theorem at a game of two rounds that is told to stop before the second: it fails,
and undisturbed it has a result with both rounds. -/
theorem stopping_alters_no_result_second_round :
    ∃ a b : Program, (⟨"", "."⟩ : Source).compile = .ok a ∧
      (⟨"", ">>"⟩ : Source).compile = .ok b ∧
      (∃ failure, Game.Stopped [⟨2, false, 9⟩, ⟨2, true, 9⟩] failure ∧
        Game.play (.after 1) a b (.listed [⟨2, false, 9⟩, ⟨2, true, 9⟩]) =
          .error failure) ∧
      ∃ result, Game.play .never a b (.listed [⟨2, false, 9⟩, ⟨2, true, 9⟩]) =
          .ok result ∧
        result.rounds.toList.map RoundRecord.params = [⟨2, false, 9⟩, ⟨2, true, 9⟩] := by
  have ha : (⟨"", "."⟩ : Source).compile = .ok #[.plain .rest] := by cbv
  have hb : (⟨"", ">>"⟩ : Source).compile =
      .ok #[.plain .moveForward, .plain .moveForward] := by cbv
  obtain ⟨-, hgame, hwhole, -, hexists⟩ := stopping_alters_no_result ha hb
  obtain ⟨result, hresult⟩ :=
    hexists (.listed [⟨2, false, 9⟩, ⟨2, true, 9⟩]) (by decide) (by decide)
  obtain ⟨-, hrounds, -⟩ := hwhole .never _ result hresult
  refine ⟨_, _, ha, hb, ?_, result, hresult, hrounds⟩
  rcases hgame (.after 1) (.listed [⟨2, false, 9⟩, ⟨2, true, 9⟩]) with
    hsame | ⟨-, failure, hstopped, hfailed⟩
  · have hcanceled : Game.play (.after 1) #[.plain .rest]
        #[.plain .moveForward, .plain .moveForward]
        (.listed [⟨2, false, 9⟩, ⟨2, true, 9⟩]) = .error .canceled := by cbv
    rw [hresult, hcanceled] at hsame
    cases hsame
  · exact ⟨failure, hstopped, hfailed⟩

end TapeDuel
