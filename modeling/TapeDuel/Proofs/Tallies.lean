import TapeDuel.Proofs.ReplayedGames

/-!
# The tally of a game

A game checks all of its rounds before it plays the first, and then it plays them as
one chain of work. What comes out is no more than its rounds say one by one. The first
round that is not valid is the answer, whoever would have played; otherwise the game
has one record for each round, in their order, with the verdict and the steps that the
round has on its own.

The points are counted while the rounds come in and the wins are counted from the
records. Both agree because they do at the start and because adding a record keeps it
so (`GameResult.Balanced.add`).
-/

namespace TapeDuel

/-! ## Accounts -/

/-- A round that is over was won by one of the sides or drawn. -/
theorem Verdict.won_or_drawn {v : Verdict} (h : v.isOngoing = false) :
    (if (v.winner? == some .a) = true then 1 else 0) +
      (if (v.winner? == some .b) = true then 1 else 0) +
      (if v.isDraw = true then 1 else 0) = 1 := by
  obtain ⟨aLost, bLost⟩ := v
  cases aLost <;> cases bLost
  · cases h
  all_goals rfl

namespace GameResult

/-- What is taken from one side goes to the other, and the points are the wins. -/
structure Balanced (g : GameResult) : Prop where
  zeroSum : g.bPoints = -g.aPoints
  wins : g.aPoints = g.aWins - g.bWins

theorem balanced_empty : empty.Balanced :=
  ⟨rfl, rfl⟩

theorem rounds_add (g : GameResult) (r : RoundRecord) :
    (g.add r).rounds = g.rounds.push r := by
  rw [add]
  split <;> rfl

theorem aWins_add (g : GameResult) (r : RoundRecord) :
    (g.add r).aWins =
      g.aWins + if (r.verdict.winner? == some .a) = true then 1 else 0 := by
  rw [aWins, rounds_add, Array.countP_push]
  rfl

theorem bWins_add (g : GameResult) (r : RoundRecord) :
    (g.add r).bWins =
      g.bWins + if (r.verdict.winner? == some .b) = true then 1 else 0 := by
  rw [bWins, rounds_add, Array.countP_push]
  rfl

theorem Balanced.add {g : GameResult} (h : g.Balanced) (r : RoundRecord) :
    (g.add r).Balanced := by
  have hsum := h.zeroSum
  have hwins := h.wins
  refine ⟨?_, ?_⟩
  · rw [GameResult.add]
    split <;> dsimp only <;> omega
  · rw [aWins_add, bWins_add, GameResult.add]
    split
    · next hwinner =>
        rw [hwinner]
        show g.aPoints + 1 = ((g.aWins + 1 : Nat) : Int) - ((g.bWins + 0 : Nat) : Int)
        omega
    · next hwinner =>
        rw [hwinner]
        show g.aPoints - 1 = ((g.aWins + 0 : Nat) : Int) - ((g.bWins + 1 : Nat) : Int)
        omega
    · next hwinner =>
        rw [hwinner]
        exact hwins

theorem balanced_foldl_add (records : List RoundRecord) {g : GameResult}
    (h : g.Balanced) : (records.foldl GameResult.add g).Balanced := by
  induction records generalizing g with
  | nil => exact h
  | cons r records ih => exact ih (h.add r)

theorem countP_verdicts {records : List RoundRecord}
    (h : ∀ r ∈ records, r.verdict.isOngoing = false) :
    records.countP (·.verdict.winner? == some .a) +
      records.countP (·.verdict.winner? == some .b) +
      records.countP (·.verdict.isDraw) = records.length := by
  induction records with
  | nil => rfl
  | cons r records ih =>
      obtain ⟨hr, hrecords⟩ := List.forall_mem_cons.mp h
      have hrest := ih hrecords
      have hone := Verdict.won_or_drawn hr
      simp only [List.countP_cons, List.length_cons]
      omega

theorem wins_add_draws {g : GameResult}
    (h : ∀ r ∈ g.rounds.toList, r.verdict.isOngoing = false) :
    g.aWins + g.bWins + g.draws = g.rounds.size := by
  simp only [aWins, bWins, draws, ← Array.countP_toList, ← Array.length_toList]
  exact countP_verdicts h

end GameResult

theorem Game.balanced_of_play {interrupts : Interrupts} {a b : Program} {rounds : Rounds}
    {result : GameResult} (h : Game.play interrupts a b rounds = .ok result) :
    result.Balanced := by
  rw [(records_of_play h).2]
  exact GameResult.balanced_foldl_add _ GameResult.balanced_empty

/-! ## Rounds on their own -/

theorem Round.isOngoing_of_recorded {a b : Program} {params : List RoundParams}
    {records : List RoundRecord} (h : List.Forall₂ (Recorded a b) params records) :
    ∀ r ∈ records, r.verdict.isOngoing = false := by
  induction h with
  | nil => nofun
  | cons hrecord _ ih =>
      obtain ⟨verdict, steps, asked, -, hover, rfl⟩ := hrecord
      exact List.forall_mem_cons.mpr ⟨hover, ih⟩

theorem Game.play_of_first_flaw {rounds : Rounds} {before behind : List RoundParams}
    {p : RoundParams} {flaw : RoundParams.Flaw}
    (hrounds : rounds.Yields (before ++ p :: behind))
    (hbefore : ∀ q ∈ before, q.flaw? = none) (hp : p.flaw? = some flaw)
    (interrupts : Interrupts) (a b : Program) :
    play interrupts a b rounds = .error (.badRound flaw) := by
  have hflaw : rounds.flaw? = some flaw := by
    rw [hrounds.flaw?_eq, List.findSome?_append, List.findSome?_eq_none_iff.mpr hbefore,
      Option.none_or, List.findSome?_cons, hp]
  rw [play, hflaw]

/-- The tally of a game between compiled bots, over any rounds that come to an end. The
first round that is not valid is the answer, whoever plays and whether or not anybody
says stop, so before a round is played. If all are valid and their tapes fit into
memory there is a result with one record for each round, in their order: what the round
is on its own, and that is over. One side gets what the other loses, the points of A are
its wins less those of B, and every round is a win of A, a win of B or a draw. If a
tape does not fit there is no result. -/
theorem game_tallies_its_rounds {sa sb : Source} {a b : Program}
    (ha : sa.compile = .ok a) (hb : sb.compile = .ok b) {rounds : Rounds}
    {params : List RoundParams} (hrounds : rounds.Yields params) :
    (∀ before p behind flaw, params = before ++ p :: behind →
      (∀ q ∈ before, q.flaw? = none) → p.flaw? = some flaw →
      ∀ interrupts a b, Game.play interrupts a b rounds = .error (.badRound flaw)) ∧
    ((∀ p ∈ params, p.flaw? = none) → (∀ p ∈ params, p.hasRoom = true) →
      ∃ result, Game.play .never a b rounds = .ok result ∧
        List.Forall₂ (Round.Recorded a b) params result.rounds.toList ∧
        result.bPoints = -result.aPoints ∧
        result.aPoints = result.aWins - result.bWins ∧
        result.aWins + result.bWins + result.draws = params.length) ∧
    ((∀ p ∈ params, p.flaw? = none) → (∃ p ∈ params, p.hasRoom = false) →
      Game.play .never a b rounds = .error (.fault .noRoom)) := by
  have hsa := Source.sound_of_compile ha
  have hsb := Source.sound_of_compile hb
  have hvalid : (∀ p ∈ params, p.flaw? = none) → rounds.flaw? = none := by
    intro h
    rw [hrounds.flaw?_eq, List.findSome?_eq_none_iff]
    exact h
  refine ⟨?_, fun hflaws hroom => ?_, fun hflaws hroom => ?_⟩
  · rintro before p behind flaw rfl hbefore hp interrupts a b
    exact Game.play_of_first_flaw hrounds hbefore hp interrupts a b
  · rw [← hrounds.toList_eq] at hroom
    obtain ⟨records, hplay, hrecords⟩ :=
      Game.exists_foldl_records hsa hsb (hvalid hflaws) hroom
    rw [hrounds.toList_eq] at hrecords
    have hbalanced := Game.balanced_of_play hplay
    have hlist : (records.foldl GameResult.add .empty).rounds.toList = records :=
      GameResult.toList_rounds_foldl_add records .empty
    refine ⟨_, hplay, ?_, hbalanced.zeroSum, hbalanced.wins, ?_⟩
    · rwa [hlist]
    · rw [GameResult.wins_add_draws
        (by rw [hlist]; exact Round.isOngoing_of_recorded hrecords),
        ← Array.length_toList, hlist, hrecords.length_eq]
  · rw [← hrounds.toList_eq] at hroom
    exact Game.play_noRoom hsa hsb (hvalid hflaws) hroom

/-- The theorem at the range of one tape length, which has two rounds, and at a list
whose second round is not valid. -/
theorem game_tallies_its_rounds_range :
    ∃ a b : Program, (⟨"", ">"⟩ : Source).compile = .ok a ∧
      (⟨"", "<"⟩ : Source).compile = .ok b ∧
      (∃ result, Game.play .never a b (.between 2 2 9) = .ok result ∧
        List.Forall₂ (Round.Recorded a b) [⟨2, false, 9⟩, ⟨2, true, 9⟩]
          result.rounds.toList ∧
        result.aWins + result.bWins + result.draws = 2) ∧
      Game.play .always a b (.listed [⟨2, false, 9⟩, ⟨1, true, 9⟩]) =
        .error (.badRound (.shortTape 1)) := by
  have ha : (⟨"", ">"⟩ : Source).compile = .ok #[.plain .moveForward] := by cbv
  have hb : (⟨"", "<"⟩ : Source).compile = .ok #[.plain .moveBack] := by cbv
  have hyields : (Rounds.between 2 2 9).Yields [⟨2, false, 9⟩, ⟨2, true, 9⟩] := by
    refine .between fun n => ?_
    rcases n with _ | _ | _ | n <;> rfl
  obtain ⟨-, hresult, -⟩ := game_tallies_its_rounds ha hb hyields
  obtain ⟨result, hplay, hrecords, -, -, hcount⟩ := hresult (by decide) (by decide)
  obtain ⟨hflaw, -, -⟩ := game_tallies_its_rounds ha hb
    (.listed [⟨2, false, 9⟩, ⟨1, true, 9⟩])
  exact ⟨_, _, ha, hb, ⟨result, hplay, hrecords, hcount⟩,
    hflaw [⟨2, false, 9⟩] ⟨1, true, 9⟩ [] (.shortTape 1) rfl (by decide)
      (by decide) _ _ _⟩

/-- A tape is valid however long it is, but a game on a tape that memory cannot hold has
no result. -/
theorem endless_tape_leaves_no_result :
    ∃ a b : Program, (⟨"", "<"⟩ : Source).compile = .ok a ∧
      (⟨"", ""⟩ : Source).compile = .ok b ∧
      (⟨4611686018427387904, false, 10⟩ : RoundParams).flaw? = none ∧
      ¬ ∃ result, Game.play .never a b
        (.listed [⟨4611686018427387904, false, 10⟩]) = .ok result := by
  have ha : (⟨"", "<"⟩ : Source).compile = .ok #[.plain .moveBack] := by cbv
  have hb : (⟨"", ""⟩ : Source).compile = .ok #[] := by cbv
  have hplay : Game.play .never #[.plain .moveBack] #[]
      (.listed [⟨4611686018427387904, false, 10⟩]) = .error (.fault .noRoom) := by cbv
  refine ⟨_, _, ha, hb, by decide, ?_⟩
  rintro ⟨result, hresult⟩
  rw [hplay] at hresult
  cases hresult

end TapeDuel
