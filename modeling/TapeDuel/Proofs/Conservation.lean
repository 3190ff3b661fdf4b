import TapeDuel.Proofs.Tallies
import TapeDuel.Proofs.Totals

/-!
# What a tournament conserves

Points are only moved in a game, from one player to the other, and who wins is as many
as who loses. Over a whole tournament the standings keep that: the points add up to
zero, there are as many wins as losses, and everybody has played everybody else.

A line of the standings is the total of the scores of its name. So whatever is counted
in it, points or wins, is a sum over these scores (`total_eq`), and summed over all
names it is the sum over all scores (`sum_tally`). The scores come in pairs, two for
each game, and what the two of a pair come to is plain. In which order the games were
entered is never asked.
-/

namespace TapeDuel

/-! ## Sums over names -/

section Tally

variable {M : Type} [AddCommMonoid M] (count : Score → M)

/-- Every score is counted under its name, and under no other. -/
theorem sum_tally {scores : List Score} {names : List String} (hnames : names.Nodup)
    (hmem : ∀ r ∈ scores, r.name ∈ names) :
    (names.map (tally count scores)).sum = (scores.map count).sum := by
  induction scores with
  | nil =>
      have hzero : tally count [] = fun _ => 0 := rfl
      rw [hzero, List.sum_map_zero]
      rfl
  | cons r scores ih =>
      obtain ⟨hr, hmem⟩ := List.forall_mem_cons.mp hmem
      have hone : (names.map fun name => if r.name = name then count r else 0).sum =
          count r := by
        rw [List.sum_map_eq_nsmul_single r.name, List.count_eq_one_of_mem hnames hr,
          if_pos rfl, one_nsmul]
        intro name hne _
        rw [if_neg (Ne.symm hne)]
      have hstep : tally count (r :: scores) = fun name =>
          (if r.name = name then count r else 0) + tally count scores name :=
        funext (tally_cons count r scores)
      rw [hstep, List.sum_map_add, hone, ih hmem, List.map_cons, List.sum_cons]

end Tally

/-! ## The two scores of a game -/

section Games

variable {games : List GameRecord}

theorem sum_own_eq_zero (h : ∀ g ∈ games, g.result.bPoints = -g.result.aPoints) :
    ((games.flatMap GameRecord.scores).map Score.own).sum = 0 := by
  induction games with
  | nil => rfl
  | cons g games ih =>
      obtain ⟨hg, hgames⟩ := List.forall_mem_cons.mp h
      have hrest := ih hgames
      simp only [List.flatMap_cons, GameRecord.scores, List.map_append, List.sum_append,
        List.map_cons, List.map_nil, List.sum_cons, List.sum_nil] at hrest ⊢
      omega

theorem sum_won_eq_sum_lost (games : List GameRecord) :
    ((games.flatMap GameRecord.scores).map Score.won).sum =
      ((games.flatMap GameRecord.scores).map Score.lost).sum := by
  induction games with
  | nil => rfl
  | cons g games ih =>
      simp only [List.flatMap_cons, GameRecord.scores, List.map_append, List.sum_append,
        List.map_cons, List.map_nil, List.sum_cons, List.sum_nil, Score.won,
        Score.lost] at ih ⊢
      omega

/-- What a name has scored on either side. -/
theorem tally_own_scores (games : List GameRecord) (name : String) :
    tally Score.own (games.flatMap GameRecord.scores) name =
      ((games.filter fun g => g.a = name).map fun g => g.result.aPoints).sum +
        ((games.filter fun g => g.b = name).map fun g => g.result.bPoints).sum := by
  induction games with
  | nil => rfl
  | cons g games ih =>
      rw [List.flatMap_cons, tally_append, ih, GameRecord.scores, tally_cons, tally_cons]
      by_cases ha : g.a = name <;> by_cases hb : g.b = name <;>
        simp [ha, hb, tally] <;> omega

/-- Each score is a win, a loss or a draw. -/
theorem tally_won_add_lost_add_drawn (scores : List Score) (name : String) :
    tally Score.won scores name + tally Score.lost scores name +
      tally Score.drawn scores name = (scores.filter fun r => r.name = name).length := by
  rw [tally, tally, tally]
  induction scores.filter fun r => r.name = name with
  | nil => rfl
  | cons r scores ih =>
      have hone := r.won_add_lost_add_drawn
      simp only [List.map_cons, List.sum_cons, List.length_cons]
      omega

end Games

namespace Tournament

variable {entries : List Entry} {rounds : Rounds} {outcome : Outcome}

/-! ## Everybody meets everybody -/

theorem name_eq_iff_place_eq (hnames : (entries.map Entry.name).Nodup) {i k : Nat}
    {a e : Entry} (hi : entries[i]? = some a) (hk : entries[k]? = some e) :
    a.name = e.name ↔ i = k := by
  refine ⟨getElem?_inj hnames hi hk, ?_⟩
  rintro rfl
  exact congrArg Entry.name (Option.some.inj (hi.symm.trans hk))

/-- The names are different, so there is a score of an entry wherever it has an
opponent. -/
theorem length_scores {k : Nat} {e : Entry} (hnames : (entries.map Entry.name).Nodup)
    (hk : entries[k]? = some e) {pairs : List (Nat × Nat)}
    (hpairs : ∀ pairing ∈ pairs, pairing ∈ pairings entries.length)
    (hrecords : ∀ pairing ∈ pairs,
      ∃ game, record? entries.toArray rounds pairing = some game) :
    (((pairs.filterMap (record? entries.toArray rounds)).flatMap
      GameRecord.scores).filter fun r => r.name = e.name).length =
        (pairs.filterMap (opponent? entries k)).length := by
  induction pairs with
  | nil => rfl
  | cons pairing pairs ih =>
      obtain ⟨hpairing, hpairs⟩ := List.forall_mem_cons.mp hpairs
      obtain ⟨⟨game, hgame⟩, hrecords⟩ := List.forall_mem_cons.mp hrecords
      have hrest := ih hpairs hrecords
      obtain ⟨i, j⟩ := pairing
      obtain ⟨hij, -⟩ := mem_pairings.mp hpairing
      rw [List.filterMap_cons_some hgame, List.flatMap_cons, List.filter_append,
        List.length_append, hrest]
      obtain ⟨a, b, result, hi, hj, -, rfl⟩ := record?_eq_some_iff.mp hgame
      rw [List.getElem?_toArray] at hi hj
      have ha : a.name = e.name ↔ i = k := name_eq_iff_place_eq hnames hi hk
      have hb : b.name = e.name ↔ j = k := name_eq_iff_place_eq hnames hj hk
      rw [GameRecord.scores, ← List.countP_eq_length_filter, List.countP_cons,
        List.countP_cons, List.countP_nil]
      simp only [ha, hb, decide_eq_true_eq]
      by_cases hik : i = k
      · have hjk : j ≠ k := by omega
        have hopponent : opponent? entries k (i, j) = some b := by
          rw [opponent?, if_pos hik]
          exact hj
        rw [if_pos hik, if_neg hjk, List.filterMap_cons_some hopponent, List.length_cons]
        omega
      · by_cases hjk : j = k
        · have hopponent : opponent? entries k (i, j) = some a := by
            rw [opponent?, if_neg hik, if_pos hjk]
            exact hi
          rw [if_neg hik, if_pos hjk, List.filterMap_cons_some hopponent,
            List.length_cons]
          omega
        · have hopponent : opponent? entries k (i, j) = none := by
            rw [opponent?, if_neg hik, if_neg hjk]
          rw [if_neg hik, if_neg hjk, List.filterMap_cons_none hopponent]
          omega

/-- Everybody but one entry has another name than that entry. -/
theorem length_others (hnames : (entries.map Entry.name).Nodup) {e : Entry}
    (he : e ∈ entries) :
    (entries.filter fun o => o.name ≠ e.name).length + 1 = entries.length := by
  have hself : entries.countP (fun o => o.name == e.name) = 1 := by
    have hcount := List.count_eq_one_of_mem hnames (List.mem_map_of_mem he)
    rwa [List.count_eq_countP, List.countP_map] at hcount
  have hall := List.length_eq_countP_add_countP (fun o : Entry => o.name == e.name)
    (l := entries)
  simp only [beq_iff_eq] at hall
  rw [hself] at hall
  rw [← List.countP_eq_length_filter, hall, Nat.add_comm]

theorem Outcome.Complete.length_scores (h : outcome.Complete entries rounds) {e : Entry}
    (he : e ∈ entries) :
    ((outcome.games.flatMap GameRecord.scores).filter fun r =>
        r.name = e.name).length + 1 =
      entries.length := by
  obtain ⟨k, hk⟩ := List.getElem?_of_mem he
  obtain ⟨pairs, hpairs, hrecords, rfl⟩ := h.exists_pairs
  dsimp only
  rw [Tournament.length_scores h.names hk
      (fun _ hmem => hpairs.mem_iff.mp hmem) hrecords,
    (hpairs.filterMap _).length_eq, (opponents_perm h.names hk).length_eq,
    length_others h.names he]

theorem Outcome.Complete.name_mem_of_score (h : outcome.Complete entries rounds) :
    ∀ r ∈ outcome.games.flatMap GameRecord.scores, r.name ∈ entries.map Entry.name := by
  obtain ⟨pairs, -, -, rfl⟩ := h.exists_pairs
  intro r hr
  obtain ⟨game, hgame, hscore⟩ := List.mem_flatMap.mp hr
  obtain ⟨pairing, -, hrecord⟩ := List.mem_filterMap.mp hgame
  exact name_mem_of_record? hrecord hscore

/-- The games are those of all pairs. -/
theorem Outcome.Complete.records (h : outcome.Complete entries rounds) :
    (outcome.games.map some).Perm
      ((pairings entries.length).map (record? entries.toArray rounds)) := by
  obtain ⟨pairs, hpairs, hrecords, rfl⟩ := h.exists_pairs
  dsimp only
  rw [map_some_filterMap hrecords]
  exact hpairs.map _

theorem Outcome.Complete.zeroSum (h : outcome.Complete entries rounds) :
    ∀ g ∈ outcome.games, g.result.bPoints = -g.result.aPoints := by
  obtain ⟨pairs, -, -, rfl⟩ := h.exists_pairs
  intro game hgame
  obtain ⟨pairing, -, hrecord⟩ := List.mem_filterMap.mp hgame
  obtain ⟨a, b, result, -, -, hplay, rfl⟩ := record?_eq_some_iff.mp hrecord
  exact (Game.balanced_of_play hplay).zeroSum

/-! ## The lines of the standings -/

section Lines

variable {standings : List Standing}

theorem Outcome.Complete.perm_standings (h : outcome.Complete entries rounds)
    (hdone : outcome.standings = .ok standings) :
    standings.Perm (entries.map fun e =>
      total (outcome.games.flatMap GameRecord.scores) e.name) := by
  have hsheet := h.standings_total
  rw [hdone] at hsheet
  rw [Except.ok.inj hsheet]
  exact sortStandings_perm _

theorem Outcome.Complete.map_name_standings (h : outcome.Complete entries rounds)
    (hdone : outcome.standings = .ok standings) :
    (standings.map Standing.name).Perm (entries.map Entry.name) := by
  have hnames := (h.perm_standings hdone).map Standing.name
  rw [List.map_map] at hnames
  exact hnames.trans (List.Perm.of_eq (List.map_congr_left fun e _ =>
    name_total _ e.name))

/-- What the lines count comes to what there is in all scores. -/
theorem Outcome.Complete.sum_standings {M : Type} [AddCommMonoid M]
    (h : outcome.Complete entries rounds) (hdone : outcome.standings = .ok standings)
    {line : Standing → M} {count : Score → M}
    (hline : ∀ scores name, line (total scores name) = tally count scores name) :
    (standings.map line).sum =
      ((outcome.games.flatMap GameRecord.scores).map count).sum := by
  rw [((h.perm_standings hdone).map line).sum_eq,
    ← sum_tally count h.names h.name_mem_of_score, List.map_map, List.map_map]
  exact congrArg List.sum (List.map_congr_left fun e _ => hline _ e.name)

/-- Equal points leave the order to the names, and these are different. -/
theorem Outcome.Complete.pairwise_standings (h : outcome.Complete entries rounds)
    (hdone : outcome.standings = .ok standings) :
    standings.Pairwise fun s t =>
      t.points < s.points ∨ s.points = t.points ∧ s.name < t.name := by
  have hdistinct := List.pairwise_map.mp
    ((h.map_name_standings hdone).nodup_iff.mpr h.names)
  have hsorted : standings.Pairwise fun s t => s.precedes t = true := by
    have hsheet := h.standings_total
    rw [hdone] at hsheet
    rw [Except.ok.inj hsheet]
    exact pairwise_sortStandings _
  refine (hsorted.and hdistinct).imp ?_
  rintro s t ⟨hst, hne⟩
  rcases Standing.precedes_iff.mp hst with hpoints | ⟨hpoints, hname⟩
  · exact .inl hpoints
  · exact .inr ⟨hpoints, lt_of_le_of_ne hname hne⟩

end Lines

/-- What any tournament conserves that comes to standings, whatever its programs are and
however its games were scheduled and reported. Each pair has played its one game, the
entry listed first on side A. The standings have every name once. Their points add up to
zero and there are as many wins as losses; everybody has played all others, and has the
points that were its own in its games. More points come first, and then the name that
is less. -/
theorem standings_conserve_points {standings : List Standing}
    (hends : Ends entries rounds outcome) (hdone : outcome.standings = .ok standings) :
    (outcome.games.map some).Perm
      ((pairings entries.length).map (record? entries.toArray rounds)) ∧
    (standings.map Standing.name).Nodup ∧
    (standings.map Standing.name).Perm (entries.map Entry.name) ∧
    (standings.map Standing.points).sum = 0 ∧
    (standings.map Standing.wins).sum = (standings.map Standing.losses).sum ∧
    (∀ s ∈ standings, s.wins + s.losses + s.draws + 1 = entries.length ∧
      s.points =
        ((outcome.games.filter fun g => g.a = s.name).map fun g =>
          g.result.aPoints).sum +
          ((outcome.games.filter fun g => g.b = s.name).map fun g =>
            g.result.bPoints).sum) ∧
    standings.Pairwise fun s t =>
      t.points < s.points ∨ s.points = t.points ∧ s.name < t.name := by
  have h := hends.complete hdone
  have hnames := h.map_name_standings hdone
  refine ⟨h.records, hnames.nodup_iff.mpr h.names, hnames, ?_, ?_, ?_,
    h.pairwise_standings hdone⟩
  · rw [h.sum_standings hdone fun scores name => congrArg Standing.points
      (total_eq scores name)]
    exact sum_own_eq_zero h.zeroSum
  · rw [h.sum_standings hdone fun scores name => congrArg Standing.wins
        (total_eq scores name),
      h.sum_standings hdone fun scores name => congrArg Standing.losses
        (total_eq scores name)]
    exact sum_won_eq_sum_lost outcome.games
  · intro s hs
    obtain ⟨e, he, rfl⟩ := List.mem_map.mp ((h.perm_standings hdone).mem_iff.mp hs)
    rw [total_eq]
    refine ⟨?_, tally_own_scores outcome.games e.name⟩
    dsimp only
    rw [tally_won_add_lost_add_drawn, h.length_scores he]

/-- The theorem at a tournament of three bots. -/
theorem standings_conserve_points_three :
    ∃ standings,
      (play false 1 threeBots (.listed [⟨2, false, 3⟩]) fun _ _ => none).standings =
        .ok standings ∧
      (standings.map Standing.name).Perm ["hare", "owl", "mouse"] ∧
      (standings.map Standing.points).sum = 0 ∧
      (standings.map Standing.wins).sum = (standings.map Standing.losses).sum ∧
      (∀ s ∈ standings, s.wins + s.losses + s.draws = 2) ∧
      standings.Pairwise fun s t =>
        t.points < s.points ∨ s.points = t.points ∧ s.name < t.name := by
  obtain ⟨standings, hdone⟩ : ∃ standings,
      (play false 1 threeBots (.listed [⟨2, false, 3⟩]) fun _ _ => none).standings =
        .ok standings :=
    ⟨_, playable_threeBots.standings_play (by decide) fun _ _ => rfl⟩
  obtain ⟨-, -, hnames, hpoints, hwins, hlines, horder⟩ :=
    standings_conserve_points (.play false 1 _) hdone
  refine ⟨standings, hdone, hnames, hpoints, hwins, fun s hs => ?_, horder⟩
  have hgames := (hlines s hs).1
  have hlength : threeBots.length = 3 := rfl
  omega

end Tournament

end TapeDuel
