import TapeDuel.App.Jobs
import TapeDuel.Proofs.Standings

/-!
# Games that are played again

A game records each of its rounds with the parameters it was played with, in the
order of the sequence, and its points are counted from these rounds. So its record
tells how to play it again (`Game.play_recorded`): the same two programs give the
same result. Two other programs are compared with it round by round, and the
comparison finds nothing exactly if the whole result is the same.
-/

namespace TapeDuel

/-! ## What a game records -/

theorem GameResult.toList_rounds_foldl_add (records : List RoundRecord)
    (g : GameResult) :
    (records.foldl add g).rounds.toList = g.rounds.toList ++ records := by
  induction records generalizing g with
  | nil => simp
  | cons r records ih =>
      have hadd : (g.add r).rounds.toList = g.rounds.toList ++ [r] := by
        rw [add]
        split <;> simp
      rw [List.foldl_cons, ih, hadd, List.append_assoc, List.singleton_append]

namespace Game

variable {interrupts : Interrupts} {a b : Program} {rounds : Rounds}
    {result : GameResult}

theorem playRound_eq_ok {params : RoundParams} {s s' : GameState}
    (h : playRound interrupts a b params s = (.ok (), s')) :
    ∃ verdict steps, s'.result = s.result.add ⟨params, verdict, steps⟩ := by
  rw [playRound] at h
  split at h
  · cases h
  · split at h
    · cases h
    · cases h
    · cases h
    · next verdict steps asked _ =>
        cases h
        exact ⟨verdict, steps, rfl⟩

/-- A game that comes through adds one record after the other, with the parameters
of its rounds. -/
theorem exists_records_of_run_task {params : List RoundParams} {s s' : GameState}
    (h : (task interrupts a b params).run s = (.ok (), s')) :
    ∃ records : List RoundRecord, records.map RoundRecord.params = params ∧
      s'.result = records.foldl GameResult.add s.result := by
  induction params generalizing s with
  | nil =>
      rw [run_task_nil] at h
      cases h
      exact ⟨[], rfl, rfl⟩
  | cons p params ih =>
      rw [run_task_cons] at h
      rcases hround : playRound interrupts a b p s with ⟨failure | ⟨⟩, s₁⟩ <;>
        rw [hround] at h
      · cases h
      · obtain ⟨verdict, steps, hadd⟩ := playRound_eq_ok hround
        obtain ⟨records, hparams, hresult⟩ := ih h
        refine ⟨⟨p, verdict, steps⟩ :: records, ?_, ?_⟩
        · rw [List.map_cons, hparams]
        · rw [hresult, List.foldl_cons, hadd]

theorem flaw?_of_play (h : play interrupts a b rounds = .ok result) :
    rounds.flaw? = none := by
  rw [play] at h
  split at h
  · cases h
  · assumption

theorem run_task_of_play (h : play interrupts a b rounds = .ok result) :
    ∃ s, (task interrupts a b rounds.toList).run ⟨0, .empty⟩ = (.ok (), s) ∧
      s.result = result := by
  rw [play, flaw?_of_play h] at h
  rcases hrun : (task interrupts a b rounds.toList).run ⟨0, .empty⟩ with
    ⟨failure | ⟨⟩, s⟩ <;>
    rw [hrun] at h <;> cases h
  exact ⟨s, rfl, rfl⟩

/-- The rounds of a sequence are recorded in their order, and the points follow from
what is recorded. -/
theorem records_of_play (h : play interrupts a b rounds = .ok result) :
    result.rounds.toList.map RoundRecord.params = rounds.toList ∧
      result = result.rounds.toList.foldl GameResult.add .empty := by
  obtain ⟨s, hrun, rfl⟩ := run_task_of_play h
  obtain ⟨records, hparams, hresult⟩ := exists_records_of_run_task hrun
  have hrounds : s.result.rounds.toList = records := by
    rw [hresult, GameResult.toList_rounds_foldl_add]
    rfl
  rw [hrounds]
  exact ⟨hparams, hresult⟩

/-- It makes no difference whether the rounds of a game are told one by one. -/
theorem play_listed (hrounds : rounds.flaw? = none) :
    play interrupts a b (.listed rounds.toList) = play interrupts a b rounds := by
  rw [play, play, Rounds.flaw?_listed (Rounds.flaw?_of_mem hrounds), hrounds,
    Rounds.toList_listed]

/-- The record of a game tells how to play it again. -/
theorem play_recorded (h : play interrupts a b rounds = .ok result) (a' b' : Program) :
    play interrupts a' b' (.listed (result.rounds.toList.map RoundRecord.params)) =
      play interrupts a' b' rounds := by
  rw [(records_of_play h).1, play_listed (flaw?_of_play h)]

/-- Whoever is compiled can play the rounds of a game that two compiled bots have
played. -/
theorem exists_play_of_play (ha : a.Sound) (hb : b.Sound)
    (h : play .never a b rounds = .ok result) {a' b' : Program} (ha' : a'.Sound)
    (hb' : b'.Sound) : ∃ result', play .never a' b' rounds = .ok result' := by
  have hvalid := flaw?_of_play h
  refine exists_result ha' hb' hvalid fun params hparams => ?_
  by_contra hroom
  rw [play_noRoom ha hb hvalid ⟨params, hparams, Bool.eq_false_of_not_eq_true hroom⟩]
    at h
  cases h

end Game

/-! ## Comparing -/

namespace App.Surroundings

theorem mismatched_compareRounds_eq_zero {played recorded : GameResult}
    (hsize : played.rounds.size = recorded.rounds.size) :
    ((compareRounds played recorded).filter fun c => c.2.isSome).length = 0 ↔
      played.rounds = recorded.rounds := by
  rw [List.length_eq_zero_iff, List.filter_eq_nil_iff, compareRounds,
    List.forall_mem_map]
  constructor
  · intro h
    refine Array.ext hsize fun k hk hk' => ?_
    have hk := h (played.rounds[k], recorded.rounds[k]) (List.mem_iff_getElem.mpr
      ⟨k, by simpa [hsize] using hk', by simp⟩)
    by_contra hne
    exact hk (by simp [hne])
  · rintro hrounds ⟨p, r⟩ hmem
    rw [hrounds] at hmem
    obtain ⟨k, hk, heq⟩ := List.mem_iff_getElem.mp hmem
    have : p = r := by
      simp only [List.getElem_zip, Prod.mk.injEq] at heq
      exact heq.1.symm.trans heq.2
    simp [this]

end App.Surroundings

end TapeDuel
