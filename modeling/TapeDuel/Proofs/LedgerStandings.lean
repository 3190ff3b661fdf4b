import TapeDuel.Proofs.Totals
import TapeDuel.Proofs.Updates

/-!
# The standings of the ledger

The standings are counted twice, and in two ways. A tournament has a sheet with a line
for each entry, adds a game to the lines at two places, and sorts the sheet when it is
over. The ledger knows no entries: its query writes two rows for each game, puts the rows
of one name together and adds up their columns.

What both count is said by scores. A row of the query is the score of a player
(`Ledger.standingRows_perm`), so the sums of a group are the total of a name
(`KeyGroup.sums_eq_total`), which is also what a line of the sheet is. The order of the
scores does not matter for that, and so it does not matter in which order games are
saved. As soon as there are two entries every entry has played, and the ledger lists the
same names as the sheet. Both lists are in the same order (`Ledger.listedBefore_eq`).
-/

namespace TapeDuel

/-! ## The rows of the query -/

def StoredGame.scores (g : StoredGame) : List Score :=
  [⟨g.a, g.aPoints, g.bPoints⟩, ⟨g.b, g.bPoints, g.aPoints⟩]

/-- The row of a score. -/
def Score.row (r : Score) : StandingRow :=
  ⟨r.name, r.own, r.won, r.lost, r.drawn⟩

theorem StoredGame.rowOfA_eq (g : StoredGame) :
    g.rowOfA = Score.row ⟨g.a, g.aPoints, g.bPoints⟩ :=
  rfl

/-- Only the draws are compared the other way round. -/
theorem StoredGame.rowOfB_eq (g : StoredGame) :
    g.rowOfB = Score.row ⟨g.b, g.bPoints, g.aPoints⟩ := by
  rw [rowOfB, Score.row, Score.won, Score.lost, Score.drawn]
  simp only [gt_iff_lt, eq_comm]

namespace Ledger

variable (l : Ledger)

/-- The scores of all games. -/
def scores : List Score :=
  l.games.flatMap StoredGame.scores

/-- The query writes a row for each score. -/
theorem standingRows_perm : l.standingRows.Perm (l.scores.map Score.row) := by
  rw [standingRows, scores]
  induction l.games with
  | nil => exact .nil
  | cons g games ih =>
      rw [List.map_cons, List.map_cons, List.flatMap_cons, List.map_append,
        StoredGame.rowOfA_eq, StoredGame.rowOfB_eq]
      exact (List.perm_middle.trans (ih.cons _)).cons _

theorem groupsOf_standingGroups :
    GroupsOf StandingRow.name l.standingRows l.standingGroups :=
  groupsOf_groupsBy _ _

/-! ## The groups of the query -/

variable {l} {g : KeyGroup StandingRow}

/-- The rows of a group are those of the scores of its name. -/
theorem members_perm (hg : g ∈ l.standingGroups) :
    g.members.Perm ((l.scores.filter fun r => r.name = g.first.name).map Score.row) := by
  rw [l.groupsOf_standingGroups.members_eq g hg]
  have hrows := l.standingRows_perm.filter fun row => decide (row.name = g.first.name)
  rwa [List.filter_map] at hrows

/-- A column of a group adds up what is counted in the scores of its name. -/
theorem sum_column {M : Type} [AddCommMonoid M] (column : StandingRow → M)
    (hg : g ∈ l.standingGroups) :
    (g.members.map column).foldl (· + ·) 0 =
      tally (fun r => column r.row) l.scores g.first.name := by
  rw [← List.sum_eq_foldl, ((members_perm hg).map column).sum_eq, List.map_map]
  rfl

/-- The sums of a group are the total of its name. -/
theorem sums_eq_total (hg : g ∈ l.standingGroups) :
    g.sums = total l.scores g.first.name := by
  rw [total_eq, KeyGroup.sums, sum_column StandingRow.points hg,
    sum_column StandingRow.win hg, sum_column StandingRow.loss hg,
    sum_column StandingRow.draw hg]
  rfl

/-- The names that the query lists. -/
def groupNames (l : Ledger) : List String :=
  l.standingGroups.map fun g => g.first.name

theorem nodup_groupNames (l : Ledger) : l.groupNames.Nodup :=
  l.groupsOf_standingGroups.nodup_keys

theorem mem_groupNames {name : String} :
    name ∈ l.groupNames ↔ ∃ r ∈ l.scores, r.name = name := by
  constructor
  · intro hname
    obtain ⟨g, hg, rfl⟩ := List.mem_map.mp hname
    have hfirst := l.groupsOf_standingGroups.first_mem hg
    obtain ⟨r, hr, hrow⟩ := List.mem_map.mp (l.standingRows_perm.mem_iff.mp hfirst)
    exact ⟨r, hr, congrArg StandingRow.name hrow⟩
  · rintro ⟨r, hr, rfl⟩
    exact l.groupsOf_standingGroups.key_mem r.row
      (l.standingRows_perm.mem_iff.mpr (List.mem_map_of_mem hr))

/-! ## The order of the query -/

/-- The query and the tournament agree on what comes first. -/
theorem listedBefore_eq (s t : Standing) : listedBefore s t = s.precedes t := by
  rw [Bool.eq_iff_iff, Standing.precedes_iff, listedBefore]
  split
  case isTrue heq =>
    rw [decide_eq_true_iff]
    exact ⟨fun h => .inr ⟨heq, h⟩, fun h => h.elim (by omega) And.right⟩
  case isFalse hne =>
    rw [decide_eq_true_iff]
    exact ⟨.inl, fun h => h.elim id fun h => absurd h.1 hne⟩

theorem standings_eq (l : Ledger) :
    l.standings = sortStandings (l.groupNames.map (total l.scores)) := by
  have horder : listedBefore = Standing.precedes := funext₂ listedBefore_eq
  have hlines : l.standingGroups.map KeyGroup.sums =
      l.groupNames.map (total l.scores) := by
    rw [groupNames, List.map_map]
    exact List.map_congr_left fun g hg => sums_eq_total hg
  rw [standings, sortStandings, hlines, horder]

end Ledger

namespace Tournament

variable {entries : List Entry} {rounds : Rounds}

/-- A ledger that has the games of a whole tournament has its standings. -/
theorem Outcome.Complete.standings_eq {outcome : Outcome}
    (h : outcome.Complete entries rounds) (hmany : entries.length ≠ 1) {l : Ledger}
    (hsame :
      (l.games.map StoredGame.scores).Perm (outcome.games.map GameRecord.scores)) :
    outcome.standings = .ok l.standings := by
  have hgames : l.scores.Perm (outcome.games.flatMap GameRecord.scores) := hsame.flatten
  have hnames : l.groupNames.Perm (entries.map Entry.name) := by
    obtain ⟨pairs, hpairs, hrecords, rfl⟩ := h.exists_pairs
    refine (List.perm_ext_iff_of_nodup l.nodup_groupNames h.names).mpr fun name => ?_
    rw [Ledger.mem_groupNames, ← mem_names_iff hmany hpairs hrecords]
    exact exists_congr fun r => and_congr_left fun _ => hgames.mem_iff
  have hsheet : (entries.map fun e =>
      total (outcome.games.flatMap GameRecord.scores) e.name).Perm
        (l.groupNames.map (total l.scores)) := by
    have hmap := hnames.symm.map (total l.scores)
    rw [List.map_map] at hmap
    refine (List.Perm.of_eq (List.map_congr_left fun e _ => ?_)).trans hmap
    exact (total_perm hgames e.name).symm
  rw [h.standings_total, l.standings_eq]
  refine congrArg Except.ok (sortStandings_eq_of_perm ?_ hsheet)
  simpa [Function.comp_def, name_total] using h.names

end Tournament

/-! ## Sums that fit -/

namespace GameResult

theorem natAbs_points_foldl_add (records : List RoundRecord) (g : GameResult) :
    (records.foldl add g).aPoints.natAbs ≤ g.aPoints.natAbs + records.length ∧
      (records.foldl add g).bPoints.natAbs ≤ g.bPoints.natAbs + records.length := by
  induction records generalizing g with
  | nil => exact ⟨Nat.le_refl _, Nat.le_refl _⟩
  | cons r records ih =>
      have hadd : (g.add r).aPoints.natAbs ≤ g.aPoints.natAbs + 1 ∧
          (g.add r).bPoints.natAbs ≤ g.bPoints.natAbs + 1 := by
        rw [add]
        split <;> dsimp only <;> omega
      have hrest := ih (g.add r)
      rw [List.foldl_cons, List.length_cons]
      omega

end GameResult

/-- Nobody wins or loses more than all rounds of a game. -/
theorem Game.natAbs_points_le {interrupts : Interrupts} {a b : Program} {rounds : Rounds}
    {result : GameResult} (h : play interrupts a b rounds = .ok result) :
    result.aPoints.natAbs ≤ result.rounds.size ∧
      result.bPoints.natAbs ≤ result.rounds.size := by
  have hresult := (records_of_play h).2
  have hpoints := GameResult.natAbs_points_foldl_add result.rounds.toList .empty
  rw [← hresult, Array.length_toList] at hpoints
  simpa [GameResult.empty] using hpoints

theorem sumFits_of_lt {points : List Int} {total : Int}
    (h : total.natAbs + (points.map Int.natAbs).sum < 2 ^ 63) :
    sumFits total points = true := by
  induction points generalizing total with
  | nil => rfl
  | cons p points ih =>
      rw [List.map_cons, List.sum_cons] at h
      rw [sumFits, Bool.and_eq_true]
      refine ⟨?_, ih (by omega)⟩
      rw [fits64, Bool.and_eq_true, decide_eq_true_iff, decide_eq_true_iff]
      omega

/-- What a player wins or loses in a game. -/
def Score.stake (r : Score) : Nat :=
  r.own.natAbs

/-- The points of all names can be added up where the stakes of each name fit. -/
theorem Ledger.pointsFit_of_lt {l : Ledger}
    (h : ∀ name, tally Score.stake l.scores name < 2 ^ 63) : l.pointsFit = true := by
  rw [pointsFit, List.all_eq_true]
  intro g hg
  refine sumFits_of_lt ?_
  have hstakes := sum_column (fun row => row.points.natAbs) hg
  rw [Int.natAbs_zero, Nat.zero_add, List.map_map, List.sum_eq_foldl]
  exact lt_of_eq_of_lt hstakes (h g.first.name)

/-- What is counted of a name in all games is counted in one after the other. -/
theorem tally_flatMap_scores {M : Type} [AddCommMonoid M] (count : Score → M)
    (games : List GameRecord) (name : String) :
    tally count (games.flatMap GameRecord.scores) name =
      (games.map fun g => tally count g.scores name).sum := by
  induction games with
  | nil => rfl
  | cons g games ih =>
      rw [List.flatMap_cons, tally_append, ih, List.map_cons, List.sum_cons]

namespace Tournament

variable {entries : List Entry} {rounds : Rounds} {outcome : Outcome}

theorem Outcome.Complete.stake_le (h : outcome.Complete entries rounds) (name : String)
    {game : GameRecord} (hgame : game ∈ outcome.games) :
    tally Score.stake game.scores name ≤ game.result.rounds.size := by
  obtain ⟨pairs, hpairs, -, houtcome⟩ := h.exists_pairs
  rw [houtcome] at hgame
  obtain ⟨⟨i, j⟩, hmem, hrecord⟩ := List.mem_filterMap.mp hgame
  obtain ⟨a, b, result, hi, hj, hplay, rfl⟩ := record?_eq_some_iff.mp hrecord
  rw [List.getElem?_toArray] at hi hj
  obtain ⟨hij, -⟩ := mem_pairings.mp (hpairs.mem_iff.mp hmem)
  have hne : a.name ≠ b.name := by
    intro hsame
    have := getElem?_inj h.names hi hj hsame
    omega
  obtain ⟨hwon, hlost⟩ := Game.natAbs_points_le hplay
  -- Only one of the two players has the name.
  by_cases ha : a.name = name
  · have hb : b.name ≠ name := fun hb => hne (ha.trans hb.symm)
    simpa [tally, Score.stake, GameRecord.scores, ha, hb] using hwon
  · by_cases hb : b.name = name
    · simpa [tally, Score.stake, GameRecord.scores, ha, hb] using hlost
    · simp [tally, GameRecord.scores, ha, hb]

/-- The sums of the ledger fit into a word unless the tournament had more rounds. -/
theorem Outcome.Complete.pointsFit (h : outcome.Complete entries rounds) {l : Ledger}
    (hsame : (l.games.map StoredGame.scores).Perm (outcome.games.map GameRecord.scores))
    (hrounds : (outcome.games.map fun g => g.result.rounds.size).sum < 2 ^ 63) :
    l.pointsFit = true := by
  refine Ledger.pointsFit_of_lt fun name => ?_
  have hgames : l.scores.Perm (outcome.games.flatMap GameRecord.scores) := hsame.flatten
  rw [tally_perm Score.stake hgames, tally_flatMap_scores]
  exact lt_of_le_of_lt (List.sum_le_sum fun game hgame => h.stake_le name hgame) hrounds

end Tournament

/-! ## Saved tournaments -/

namespace LedgerStore

theorem games_foldl_keep (ids : Nat → GameId) (saves : List (Nat × Save)) (l : Ledger) :
    (saves.foldl (Save.keep ids) l).games = l.games ++
      (saves.filterMap Save.game?).map fun g => Ledger.storedGame (ids g.1) g.2 := by
  induction saves generalizing l with
  | nil => simp
  | cons save saves ih =>
      obtain ⟨n, bot | record⟩ := save
      · exact ih _
      · have hfirst : (Save.keep ids l (n, .game record)).games =
            l.games ++ [Ledger.storedGame (ids n) record] := rfl
        rw [List.foldl_cons, ih, hfirst, List.append_assoc]
        rfl

end LedgerStore

/-- A tournament of at least two entries was played to its end, by programs of any kind,
one game after the other or several at a time. Its games, and no others, were saved
into a ledger without games: in any order, spread over any updates, among which may be
saves of bots and updates that failed. Then the ledger has the standings that the
tournament had, and it answers with them unless so many rounds were played that the
sum of their points may be no number of 64 bits. -/
theorem LedgerStore.standings_agree_with_tournament {entries : List Entry}
    {rounds : Rounds} {outcome : Tournament.Outcome} {standings : List Standing}
    (hends : Tournament.Ends entries rounds outcome)
    (hdone : outcome.standings = .ok standings) (hmany : 2 ≤ entries.length)
    {ids : Nat → GameId} {s : LedgerStore} (hopen : s.isOpen = true)
    (hnone : s.ledger.games = []) {n : Nat} {updates : List Update}
    (hsaved : (((Update.lasting n updates).filterMap Save.game?).map Prod.snd).Perm
      outcome.games) :
    (useAll ids (n, s) (updates.map fun u => .batch u.batch)).2.ledger.standings =
        standings ∧
      ((outcome.games.map fun g => g.result.rounds.size).sum < 2 ^ 63 → ∀ n',
        ((useAll ids (n, s) (updates.map fun u => .batch u.batch)).2.run ids n'
          { requests := [.standings] }).1 = .ok [.standings standings]) := by
  have hcomplete := hends.complete hdone
  rw [useAll_updates hopen]
  have hsame : ((s.keepAll ids (Update.lasting n updates)).ledger.games.map
      StoredGame.scores).Perm (outcome.games.map GameRecord.scores) := by
    have hscores := hsaved.map GameRecord.scores
    rw [List.map_map] at hscores
    rw [keepAll, games_foldl_keep, hnone, List.nil_append, List.map_map]
    exact hscores
  have hstandings : (s.keepAll ids (Update.lasting n updates)).ledger.standings =
      standings := by
    have hagree := hcomplete.standings_eq (by omega) hsame
    exact Except.ok.inj (hagree.symm.trans hdone)
  refine ⟨hstandings, fun hrounds n' => ?_⟩
  have hopen' : (s.keepAll ids (Update.lasting n updates)).isOpen = true := hopen
  rw [run_request hopen']
  simp [Request.step, Request.unnumbered, Request.replying, Transaction.standings,
    Transaction.view, Transaction.start, hcomplete.pointsFit hsame hrounds, hstandings]

/-- The theorem at a tournament of three whose last game was saved first, and whose
second one after an update that failed. -/
theorem LedgerStore.standings_agree_with_tournament_shuffled :
    ∃ g₁ g₂ g₃ standings,
      Tournament.play false 1 Tournament.threeBots (.listed [⟨2, false, 3⟩])
        (fun _ _ => none) = ⟨[g₁, g₂, g₃], .ok standings⟩ ∧
      ∀ ids : Nat → GameId,
        ((useAll ids (0, {})
          [.batch { requests := [.saveGame g₃, .saveGame g₁] },
            .batch { requests := [.saveGame g₁], abort := some .canceled },
            .batch { requests := [.saveGame g₂] }]).2.run ids 4
              { requests := [.standings] }).1 = .ok [.standings standings] := by
  obtain ⟨outcome, houtcome⟩ : ∃ outcome, outcome =
      Tournament.play false 1 Tournament.threeBots (.listed [⟨2, false, 3⟩])
        fun _ _ => none := ⟨_, rfl⟩
  have hends : Tournament.Ends Tournament.threeBots (.listed [⟨2, false, 3⟩]) outcome :=
    houtcome ▸ .play false 1 _
  have hlength : outcome.games.length = 3 ∧
      (outcome.games.map fun g => g.result.rounds.size).sum < 2 ^ 63 := by
    rw [houtcome]
    decide +kernel
  obtain ⟨standings, hdone⟩ : ∃ standings, outcome.standings = .ok standings := by
    rw [houtcome]
    exact ⟨_, Tournament.playable_threeBots.standings_play (by decide) fun _ _ => rfl⟩
  obtain ⟨g₁, g₂, g₃, hgames⟩ := List.length_eq_three.mp hlength.1
  refine ⟨g₁, g₂, g₃, standings, ?_, fun ids => ?_⟩
  · rw [← houtcome, ← hgames, ← hdone]
  · have hopen : ({} : LedgerStore).isOpen = true := rfl
    have hnone : ({} : LedgerStore).ledger.games = [] := rfl
    have hsaved : (((Update.lasting 0 [⟨[.game g₃, .game g₁], none⟩,
        ⟨[.game g₁], some .canceled⟩, ⟨[.game g₂], none⟩]).filterMap Save.game?).map
          Prod.snd).Perm outcome.games := by
      rw [hgames]
      exact @List.perm_append_comm _ [g₃] [g₁, g₂]
    exact (standings_agree_with_tournament hends hdone (by decide) hopen hnone hsaved).2
      hlength.2 4

end TapeDuel
