import TapeDuel.Proofs.MirrorRounds
import TapeDuel.Proofs.Unrolling

/-!
# Counted loops cost nothing in a round

A round is put beside the round of the same bots with their counted loops
written out. As long as the second goes on the two cannot be told apart but for
one thing: a bot that is done may not have ended yet. The arena asks for that
only to see whether nothing can change any more, so the second round may be
drawn where the first takes another step.

Nothing happens in that step. Both bots are done and neither flag is zero, and
behind it both have ended. So the first round is drawn by the next step, be it
for its budget or for the same reason, and `Arena.Trails` is all that can become
of the two.
-/

namespace TapeDuel

namespace Arena

/-! ## One turn -/

/-- The turn of a bot beside the turn of one without counted loops. -/
theorem turn_abreast {t : Tape} {a a' a₁' : Agent} {change : Option Mutation}
    (h : a.Abreast a') (hplain : a'.program.Plain)
    (hon : 0 ≤ a.position ∧ a.position < t.size)
    (hturn : turn t a' = .ok (a₁', change)) :
    ∃ a₁, turn t a = .ok (a₁, change) ∧ a₁.Abreast a₁' ∧
      a₁'.program.Plain ∧ (a'.ended = true → a₁.ended = true) := by
  rcases turn_eq_ok_iff.mp hturn with ⟨hend, rfl, rfl⟩ | ⟨hgoing, zero, hzero, hstep⟩
  · cases hend' : a.ended with
    | true =>
        exact ⟨a, turn_eq_ok_iff.mpr (.inl ⟨hend', rfl, rfl⟩), h, hplain,
          fun _ => hend'⟩
    | false =>
        obtain ⟨zero, hzero⟩ := Tape.isZero_ok_iff.mpr hon
        obtain ⟨a₁, hstep, hend₁, habreast⟩ := h.step_of_ended hend zero
        exact ⟨a₁, turn_eq_ok_iff.mpr (.inr ⟨hend', zero, hzero, hstep⟩),
          habreast, hplain, fun _ => hend₁⟩
  · have hgoing' : a.ended = false := by
      refine eq_false_of_ne_true fun hend => ?_
      rw [h.ended_of_plain hplain hend] at hgoing
      cases hgoing
    obtain ⟨a₁, a₂, change', hstep₁, hstep₂, habreast⟩ := h.step zero
    rw [hstep] at hstep₂
    cases hstep₂
    rw [← h.position] at hzero
    refine ⟨a₁, turn_eq_ok_iff.mpr (.inr ⟨hgoing', zero, hzero, hstep₁⟩),
      habreast, ?_, fun hend => ?_⟩
    · rw [Agent.step_program hstep]
      exact hplain
    · rw [hgoing] at hend
      cases hend

/-! ## One step -/

/-- The rounds are in the same state, as far as it can be seen, and the second
has no counted loops. -/
structure Lockstep (r r' : Arena) : Prop where
  tape : r.tape = r'.tape
  steps : r.steps = r'.steps
  maxSteps : r.maxSteps = r'.maxSteps
  verdict : r.verdict = r'.verdict
  a : r.a.Abreast r'.a
  b : r.b.Abreast r'.b
  plainA : r'.a.program.Plain
  plainB : r'.b.program.Plain

/-- What becomes of two rounds that were in the same state: they still are, or
the second was drawn and the first is drawn one step later. -/
inductive Trails (r r' : Arena) : Prop where
  | together (h : Lockstep r r')
  | behind (steps : r.steps = r'.steps + 1) (drawn : r'.verdict = .draw)
      (ending : r.verdict = .draw ∨
        r.verdict.isFinished = false ∧ r.inSink = .ok true)

section Step

variable {I : Agent → Prop} {params : RoundParams} {r r' r₁' : Arena}

theorem inSink_eq_true_iff :
    r.inSink = .ok true ↔ r.a.ended = true ∧ r.b.ended = true ∧
      r.tape.flagZero .a = .ok false ∧ r.tape.flagZero .b = .ok false := by
  rw [inSink]
  cases r.a.ended <;> cases r.b.ended <;> simp
  cases r.tape.flagZero .a <;> cases r.tape.flagZero .b <;> simp

theorem inSink_eq_false_of_ne (hsize : 0 < r.tape.size)
    (h : r.inSink ≠ .ok true) : r.inSink = .ok false := by
  obtain ⟨sink, hsink⟩ := exists_inSink hsize
  cases sink with
  | true => exact absurd hsink h
  | false => exact hsink

/-- Where a round is in a sink, so is the one without counted loops. -/
theorem Lockstep.inSink (h : Lockstep r r') (hsink : r.inSink = .ok true) :
    r'.inSink = .ok true := by
  rw [inSink_eq_true_iff] at hsink ⊢
  obtain ⟨hendA, hendB, hflags⟩ := hsink
  rw [← h.tape]
  exact ⟨h.a.ended_of_plain h.plainA hendA, h.b.ended_of_plain h.plainB hendB,
    hflags⟩

theorem Lockstep.draw (h : Lockstep r r') :
    Lockstep { r with verdict := .draw } { r' with verdict := .draw } :=
  ⟨h.tape, h.steps, h.maxSteps, rfl, h.a, h.b, h.plainA, h.plainB⟩

/-- Rounds in the same state advance to the same state, and a bot has ended
behind the step if its counterpart had before. -/
theorem Lockstep.advance (h : Lockstep r r') (hwithin : r.Within I params)
    (hgoing : r.verdict.isFinished = false) (hadv : r'.advance = .ok r₁') :
    ∃ r₁, r.advance = .ok r₁ ∧ Lockstep r₁ r₁' ∧
      (r'.a.ended = true → r₁.a.ended = true) ∧
      (r'.b.ended = true → r₁.b.ended = true) := by
  obtain ⟨aWas, bWas, a', aChange, b', bChange, middle, tape, aIs, bIs, haWas,
    hbWas, hta, htb, hmiddle, htape, haIs, hbIs, rfl⟩ := advance_eq_ok_iff.mp hadv
  rw [← h.tape] at haWas hbWas hta htb hmiddle
  obtain ⟨a, hta', ha, hplainA, hendA⟩ :=
    turn_abreast h.a h.plainA (hwithin.onTapeA hgoing) hta
  obtain ⟨b, htb', hb, hplainB, hendB⟩ :=
    turn_abreast h.b h.plainB (hwithin.onTapeB hgoing) htb
  refine ⟨_, advance_eq_ok_iff.mpr ⟨aWas, bWas, a, aChange, b, bChange, middle,
    tape, aIs, bIs, haWas, hbWas, hta', htb', hmiddle, htape, haIs, hbIs, rfl⟩,
    ⟨rfl, congrArg (· + 1) h.steps, h.maxSteps, ?_, ha, hb, hplainA, hplainB⟩,
    hendA, hendB⟩
  simp only [Agent.offTape, ha.position, hb.position]

/-- Advancing a round that is in a sink only counts the step. -/
theorem advance_of_inSink (hwithin : r.Within I params)
    (hgoing : r.verdict.isFinished = false) (hsink : r.inSink = .ok true) :
    r.advance = .ok { r with steps := r.steps + 1, verdict := .ongoing } := by
  obtain ⟨hendA, hendB, hflagA, hflagB⟩ := inSink_eq_true_iff.mp hsink
  have honA := hwithin.onTapeA hgoing
  have honB := hwithin.onTapeB hgoing
  refine advance_eq_ok_iff.mpr ⟨false, false, r.a, none, r.b, none, r.tape,
    r.tape, false, false, hflagA, hflagB,
    turn_eq_ok_iff.mpr (.inl ⟨hendA, rfl, rfl⟩),
    turn_eq_ok_iff.mpr (.inl ⟨hendB, rfl, rfl⟩), rfl, rfl, hflagA, hflagB, ?_⟩
  have hoff : ∀ {agent : Agent}, 0 ≤ agent.position ∧
      agent.position < r.tape.size → agent.offTape r.tape.size = false := by
    intro agent hon
    rw [Agent.offTape, Bool.or_eq_false_iff, decide_eq_false_iff_not,
      decide_eq_false_iff_not]
    omega
  rw [hoff honA, hoff honB]
  rfl

/-- If only the second of two rounds is in a sink, the first is in it one step
later. -/
theorem Lockstep.advance_behind (h : Lockstep r r') (hwithin : r.Within I params)
    (hwithin' : r'.Within I params) (hgoing : r.verdict.isFinished = false)
    (hsink : r'.inSink = .ok true) :
    ∃ r₁, r.advance = .ok r₁ ∧ Trails r₁ { r' with verdict := .draw } := by
  have hadv := advance_of_inSink hwithin' (h.verdict ▸ hgoing) hsink
  obtain ⟨r₁, hadv₁, hlock, hendA, hendB⟩ := h.advance hwithin hgoing hadv
  obtain ⟨hendA', hendB', hflagA, hflagB⟩ := inSink_eq_true_iff.mp hsink
  refine ⟨r₁, hadv₁, .behind hlock.steps rfl (.inr ⟨?_, ?_⟩)⟩
  · rw [hlock.verdict]
    rfl
  · rw [inSink_eq_true_iff, hlock.tape]
    exact ⟨hendA hendA', hendB hendB', hflagA, hflagB⟩

theorem Trails.step (h : Trails r r') (hparams : params.flaw? = none)
    (hwithin : r.Within I params) (hwithin' : r'.Within I params)
    (hstep : r'.step = .ok r₁') : ∃ r₁, r.step = .ok r₁ ∧ Trails r₁ r₁' := by
  cases h with
  | behind hsteps hdrawn hover =>
      rw [step_of_finished (by rw [hdrawn]; rfl)] at hstep
      cases hstep
      rcases hover with hdraw | ⟨hgoing, hsink⟩
      · exact ⟨r, step_of_finished (by rw [hdraw]; rfl),
          .behind hsteps hdrawn (.inl hdraw)⟩
      · exact ⟨_, step_of_over hgoing (.inr hsink),
          .behind hsteps hdrawn (.inl rfl)⟩
  | together h =>
      have hsize := hwithin.size_pos hparams
      rcases step_cases hstep with ⟨hfin, rfl⟩ | ⟨hgoing, hover, rfl⟩ |
        ⟨hgoing, hleft, hsink, hadv⟩
      · exact ⟨r, step_of_finished (h.verdict ▸ hfin), .together h⟩
      · rw [← h.verdict] at hgoing
        rw [← h.maxSteps, ← h.steps] at hover
        by_cases hdraws : r.maxSteps ≤ r.steps ∨ r.inSink = .ok true
        · exact ⟨_, step_of_over hgoing hdraws, .together h.draw⟩
        · obtain ⟨hleft, hno⟩ := not_or.mp hdraws
          rw [step_of_advance hgoing (Int.not_le.mp hleft)
            (inSink_eq_false_of_ne hsize hno)]
          exact h.advance_behind hwithin hwithin' hgoing (hover.resolve_left hleft)
      · rw [← h.verdict] at hgoing
        rw [← h.maxSteps, ← h.steps] at hleft
        have hno : r.inSink = .ok false :=
          inSink_eq_false_of_ne hsize fun hr => by
            rw [h.inSink hr] at hsink
            cases hsink
        obtain ⟨r₁, hadv₁, hlock, -⟩ := h.advance hwithin hgoing hadv
        exact ⟨r₁, by rw [step_of_advance hgoing hleft hno, hadv₁],
          .together hlock⟩

theorem Trails.run
    (hkeeps : ∀ a zero a' change, I a → a.step zero = .ok (a', change) → I a')
    (hparams : params.flaw? = none) {n : Nat} :
    ∀ {r r' r₁' : Arena}, Trails r r' → r.Within I params →
      r'.Within I params → r'.run n = .ok r₁' →
      ∃ r₁, r.run n = .ok r₁ ∧ Trails r₁ r₁' := by
  induction n with
  | zero =>
      intro r r' r₁' h _ _ hrun
      cases hrun
      exact ⟨r, rfl, h⟩
  | succ n ih =>
      intro r r' r₁' h hwithin hwithin' hrun
      obtain ⟨r₂', hstep', hrest⟩ := run_succ_eq_ok_iff.mp hrun
      obtain ⟨r₂, hstep, h₂⟩ := h.step hparams hwithin hwithin' hstep'
      rw [run_of_step hstep]
      exact ih h₂ (within_step hwithin hkeeps hstep)
        (within_step hwithin' hkeeps hstep') hrest

theorem Trails.of_going (h : Trails r r')
    (hgoing : r'.verdict.isFinished = false) : Lockstep r r' := by
  cases h with
  | together h => exact h
  | behind hsteps hdrawn =>
      rw [hdrawn] at hgoing
      cases hgoing

/-- When both rounds are over they ended in the same way. -/
theorem Trails.of_finished (h : Trails r r')
    (hfin : r.verdict.isFinished = true) :
    r.verdict = r'.verdict ∧ (r.steps = r'.steps ∨ r.steps = r'.steps + 1) := by
  cases h with
  | together h => exact ⟨h.verdict, .inl h.steps⟩
  | behind hsteps hdrawn hover =>
      refine ⟨?_, .inr hsteps⟩
      rw [hdrawn]
      refine hover.resolve_right fun hgoing => ?_
      rw [hgoing.1] at hfin
      cases hfin

end Step

theorem lockstep_new (ta tb : Block) (params : RoundParams) :
    Lockstep (Arena.new ta.program tb.program params)
      (Arena.new ta.unrolled.program tb.unrolled.program params) :=
  ⟨rfl, rfl, rfl, rfl, Agent.abreast_new ta _ _ _, Agent.abreast_new tb _ _ _,
    ta.plain_unrolled.program, tb.plain_unrolled.program⟩

end Arena

/-! ## Whole rounds -/

namespace Round

/-- The round ends with this verdict after so many steps, unless somebody stops
it. -/
def Ends (a b : Program) (params : RoundParams) (verdict : Verdict)
    (steps : Nat) : Prop :=
  ∀ interrupts asked, ∃ e asked',
    play interrupts asked a b params = .ok (e, asked') ∧
      (e = .finished verdict steps ∨
        (∃ n, interrupts n = true) ∧ ∃ stopped, e = .canceled stopped)

theorem ends_of_run {a b : Program} {params : RoundParams}
    (hparams : params.flaw? = none) (hroom : params.hasRoom = true) {r : Arena}
    (hrun : (Arena.new a b params).run (params.maxSteps.toNatClampNeg + 1) =
      .ok r) (hfin : r.verdict.isFinished = true) :
    Ends a b params r.verdict r.steps := by
  intro interrupts asked
  rw [play_eq_proceed hparams hroom]
  exact ⟨_, _, rfl, proceed_of_run interrupts (Nat.succ_pos _) hrun hfin⟩

end Round

/-- Two bots with their counted loops written out play the same round. Their
programs have no counted loop and can be compiled. As long as the round of these
goes on the other cannot be told apart from it; then both end with the same
verdict, and the first takes as many steps as the second or one more. -/
theorem counted_loops_are_free {sa sb : Source} {ta tb : Block}
    {params : RoundParams} (ha : sa.parse = .ok ta) (hb : sb.parse = .ok tb)
    (hparams : params.flaw? = none) :
    (sa.compile = .ok ta.program ∧ sb.compile = .ok tb.program) ∧
    (∀ t ∈ [ta, tb], t.unrolled.program.Plain ∧
      compile t.unrolled.program.render = .ok t.unrolled.program) ∧
    (∀ n, ∃ r r', (Arena.new ta.program tb.program params).run n = .ok r ∧
      (Arena.new ta.unrolled.program tb.unrolled.program params).run n = .ok r' ∧
      (r'.verdict.isFinished = false →
        r.tape = r'.tape ∧ r.a.position = r'.a.position ∧
        r.b.position = r'.b.position ∧ r.steps = r'.steps ∧
        r.verdict = .ongoing ∧ r'.verdict = .ongoing)) ∧
    (params.hasRoom = true → ∃ verdict steps steps',
      (steps = steps' ∨ steps = steps' + 1) ∧
      Round.Ends ta.program tb.program params verdict steps ∧
      Round.Ends ta.unrolled.program tb.unrolled.program params verdict steps') ∧
    (params.hasRoom = false → ∀ interrupts asked,
      Round.play interrupts asked ta.program tb.program params =
        Round.play interrupts asked ta.unrolled.program tb.unrolled.program
          params) := by
  have hnew : ∀ ta tb : Block, (Arena.new ta.program tb.program params).Within
      Agent.Safe params := fun ta tb =>
    Arena.within_new_of_sound ta.sound_program tb.sound_program hparams
  have htrails : ∀ {n r'}, (Arena.new ta.unrolled.program tb.unrolled.program
      params).run n = .ok r' → ∃ r, (Arena.new ta.program tb.program params).run
        n = .ok r ∧ Arena.Trails r r' := fun hrun' =>
    (Arena.Trails.together (Arena.lockstep_new ta tb params)).run
      (fun _ _ _ _ hsafe hstep => hsafe.step hstep) hparams (hnew ta tb)
      (hnew ta.unrolled tb.unrolled) hrun'
  refine ⟨⟨Source.compile_eq_ok_iff.mpr ⟨ta, ha, rfl⟩,
    Source.compile_eq_ok_iff.mpr ⟨tb, hb, rfl⟩⟩, fun t _ =>
    ⟨t.plain_unrolled.program, t.plain_unrolled.compile_render⟩, fun n => ?_,
    fun hroom => ?_, fun hroom interrupts asked => ?_⟩
  · obtain ⟨r', hrun', -⟩ :=
      (hnew ta.unrolled tb.unrolled).exists_run_of_safe hparams n
    obtain ⟨r, hrun, htrail⟩ := htrails hrun'
    refine ⟨r, r', hrun, hrun', fun hgoing => ?_⟩
    have h := htrail.of_going hgoing
    have hongoing : r'.verdict = .ongoing := by
      rw [Verdict.isFinished, Bool.or_eq_false_iff] at hgoing
      exact congrArg₂ Verdict.mk hgoing.1 hgoing.2
    exact ⟨h.tape, h.a.position, h.b.position, h.steps,
      h.verdict.trans hongoing, hongoing⟩
  · obtain ⟨r', hrun', hfin'⟩ := Round.exists_final
      ta.unrolled.sound_program tb.unrolled.sound_program hparams
    obtain ⟨r, hrun, hfin⟩ := Round.exists_final
      ta.sound_program tb.sound_program hparams
    obtain ⟨r₁, hrun₁, htrail⟩ := htrails hrun'
    rw [hrun] at hrun₁
    cases hrun₁
    have hsame := htrail.of_finished hfin
    refine ⟨r.verdict, r.steps, r'.steps, hsame.2,
      Round.ends_of_run hparams hroom hrun hfin, ?_⟩
    rw [hsame.1]
    exact Round.ends_of_run hparams hroom hrun' hfin'
  · simp only [Round.play, Round.start, hparams,
      if_neg (ne_true_of_eq_false hroom)]

/-- The theorem at a bot that ends in a counted loop, against one that waits.
Without the loop the round is drawn after two steps, with it after three. -/
theorem counted_loops_are_free_trailing :
    ∃ ta tb : Block, (⟨"", "(.)*2"⟩ : Source).parse = .ok ta ∧
      (⟨"", "."⟩ : Source).parse = .ok tb ∧
      (∃ verdict steps steps', (steps = steps' ∨ steps = steps' + 1) ∧
        Round.Ends ta.program tb.program ⟨4, false, 9⟩ verdict steps ∧
        Round.Ends ta.unrolled.program tb.unrolled.program ⟨4, false, 9⟩
          verdict steps') ∧
      Round.play .never 0 ta.program tb.program ⟨4, false, 9⟩ =
        .ok (.finished .draw 3, 0) ∧
      Round.play .never 0 ta.unrolled.program tb.unrolled.program
        ⟨4, false, 9⟩ = .ok (.finished .draw 2, 0) := by
  have ha : (⟨"", "(.)*2"⟩ : Source).parse =
      .ok (.times (.act .rest .done) 2 .done) := by cbv
  have hb : (⟨"", "."⟩ : Source).parse = .ok (.act .rest .done) := by cbv
  obtain ⟨-, -, -, hends, -⟩ := counted_loops_are_free ha hb
    (show (⟨4, false, 9⟩ : RoundParams).flaw? = none by decide)
  refine ⟨_, _, ha, hb, hends (by decide), ?_, ?_⟩
  · cbv
  · cbv

end TapeDuel
