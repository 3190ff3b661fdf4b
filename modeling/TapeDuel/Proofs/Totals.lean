import TapeDuel.Proofs.CompletedTournaments

/-!
# The lines of a sheet

A game has two scores, one for each player with its own points first. What a line of the
standings says about a name is the total of the scores of that name (`total`), and so it
does not matter in which order the games were entered (`total_perm`). Each column of a
line is a sum over these scores (`total_eq`).

The sheet of a tournament has a line for each entry, and a game is added to the lines at
two places. The names are different, so these are the lines of its two players, and every
line is the total of an entry (`Tournament.Outcome.Complete.standings_total`).
-/

namespace TapeDuel

/-! ## Scores -/

/-- A game as one of its players tells it, with its own points first. -/
structure Score where
  name : String
  own : Int
  other : Int

/-- A game as it is told by both. -/
def GameRecord.scores (g : GameRecord) : List Score :=
  [⟨g.a, g.result.aPoints, g.result.bPoints⟩, ⟨g.b, g.result.bPoints, g.result.aPoints⟩]

def Standing.addScore (s : Standing) (r : Score) : Standing :=
  s.add r.own r.other

/-- What the scores of a name add up to. -/
def total (scores : List Score) (name : String) : Standing :=
  (scores.filter fun r => r.name = name).foldl Standing.addScore (Standing.start name)

section Scores

variable {scores scores' : List Score} {r : Score} {name : String}

theorem total_concat (scores : List Score) (r : Score) (name : String) :
    total (scores ++ [r]) name =
      if r.name = name then (total scores name).addScore r else total scores name := by
  by_cases h : r.name = name <;> simp [total, h]

theorem name_total (scores : List Score) (name : String) :
    (total scores name).name = name := by
  induction scores using List.reverseRecOn with
  | nil => rfl
  | append_singleton scores r ih =>
      rw [total_concat]
      split
      · exact ih
      · exact ih

theorem total_perm (h : scores.Perm scores') (name : String) :
    total scores name = total scores' name :=
  (h.filter _).foldl_eq' (fun _ _ _ _ s => s.add_right_comm _ _ _ _) _

end Scores

/-! ## Sums of scores -/

namespace Score

/-- One if the score is that of a winner. -/
def won (r : Score) : Nat :=
  if r.other < r.own then 1 else 0

def lost (r : Score) : Nat :=
  if r.own < r.other then 1 else 0

def drawn (r : Score) : Nat :=
  if r.own = r.other then 1 else 0

theorem won_add_lost_add_drawn (r : Score) : r.won + r.lost + r.drawn = 1 := by
  rw [won, lost, drawn]
  rcases Int.lt_trichotomy r.own r.other with h | h | h
  · rw [if_neg (by omega), if_pos h, if_neg (by omega)]
  · rw [if_neg (by omega), if_neg (by omega), if_pos h]
  · rw [if_pos h, if_neg (by omega), if_neg (by omega)]

end Score

/-- What is counted in the scores of a name. -/
def tally {M : Type} [AddCommMonoid M] (count : Score → M) (scores : List Score)
    (name : String) : M :=
  ((scores.filter fun r => r.name = name).map count).sum

theorem foldl_addScore (scores : List Score) (s : Standing) :
    scores.foldl Standing.addScore s =
      ⟨s.name, s.points + (scores.map Score.own).sum,
        s.wins + (scores.map Score.won).sum, s.losses + (scores.map Score.lost).sum,
        s.draws + (scores.map Score.drawn).sum⟩ := by
  induction scores generalizing s with
  | nil => simp
  | cons r scores ih =>
      rw [List.foldl_cons, ih]
      simp only [Standing.addScore, Standing.add, List.map_cons, List.sum_cons,
        Score.won, Score.lost, Score.drawn, Int.add_assoc, Nat.add_assoc]

/-- A line of the standings counts the scores of its name. -/
theorem total_eq (scores : List Score) (name : String) :
    total scores name =
      ⟨name, tally Score.own scores name, tally Score.won scores name,
        tally Score.lost scores name, tally Score.drawn scores name⟩ := by
  rw [total, foldl_addScore]
  simp only [Standing.start, tally, Int.zero_add, Nat.zero_add]

section Tally

variable {M : Type} [AddCommMonoid M] (count : Score → M)

theorem tally_cons (r : Score) (scores : List Score) (name : String) :
    tally count (r :: scores) name =
      (if r.name = name then count r else 0) + tally count scores name := by
  by_cases h : r.name = name <;> simp [tally, h]

theorem tally_append (scores scores' : List Score) (name : String) :
    tally count (scores ++ scores') name =
      tally count scores name + tally count scores' name := by
  simp [tally]

theorem tally_perm {scores scores' : List Score} (h : scores.Perm scores')
    (name : String) : tally count scores name = tally count scores' name :=
  ((h.filter _).map count).sum_eq

end Tally

/-! ## The lines of a tournament -/

namespace Tournament

variable {entries : List Entry} {rounds : Rounds}

theorem toList_modify_add (hnames : (entries.map Entry.name).Nodup)
    {sheet : Array Standing} {scores : List Score}
    (h : sheet.toList = entries.map fun e => total scores e.name) {i : Nat} {a : Entry}
    (hi : entries[i]? = some a) (own other : Int) :
    (sheet.modify i (·.add own other)).toList =
      entries.map fun e => total (scores ++ [⟨a.name, own, other⟩]) e.name := by
  refine List.ext_getElem? fun k => ?_
  have hk := congrArg (·[k]?) h
  rw [Array.getElem?_toList, List.getElem?_map] at hk
  rw [Array.getElem?_toList, Array.getElem?_modify, List.getElem?_map, hk]
  cases he : entries[k]? with
  | none => simp
  | some e =>
      simp only [Option.map_some, total_concat]
      -- The names are different, so the score belongs to the line at this place only.
      by_cases hik : i = k
      · subst hik
        obtain rfl := Option.some.inj (hi.symm.trans he)
        rw [if_pos rfl, if_pos rfl]
        rfl
      · have hne : a.name ≠ e.name := fun hsame => hik (getElem?_inj hnames hi he hsame)
        rw [if_neg hik, if_neg hne]

/-- Every line of the sheet is the total of an entry. -/
theorem toList_foldl_creditPair (hnames : (entries.map Entry.name).Nodup)
    (pairs : List (Nat × Nat)) :
    (pairs.foldl (creditPair entries.toArray rounds)
      (State.start entries).standings).toList =
      entries.map fun e =>
      total ((pairs.filterMap (record? entries.toArray rounds)).flatMap
        GameRecord.scores) e.name := by
  induction pairs using List.reverseRecOn with
  | nil => simp [State.start, total]
  | append_singleton pairs pairing ih =>
      rw [List.foldl_append, List.foldl_cons, List.foldl_nil, List.filterMap_append,
        List.flatMap_append, creditPair]
      cases hgame : record? entries.toArray rounds pairing with
      | none => simpa [hgame] using ih
      | some game =>
          obtain ⟨a, b, result, hi, hj, -, rfl⟩ := record?_eq_some_iff.mp hgame
          rw [List.getElem?_toArray] at hi hj
          have ha := toList_modify_add hnames ih hi result.aPoints result.bPoints
          have hb := toList_modify_add hnames ha hj result.bPoints result.aPoints
          rw [List.append_assoc] at hb
          simpa [hgame, credit_eq, GameRecord.scores] using hb

theorem name_mem_of_record? {pairing : Nat × Nat} {game : GameRecord}
    (h : record? entries.toArray rounds pairing = some game) {r : Score}
    (hr : r ∈ game.scores) : r.name ∈ entries.map Entry.name := by
  obtain ⟨a, b, result, hi, hj, -, rfl⟩ := record?_eq_some_iff.mp h
  rw [List.getElem?_toArray] at hi hj
  rcases List.mem_pair.mp hr with rfl | rfl
  · exact List.mem_map_of_mem (List.mem_of_getElem? hi)
  · exact List.mem_map_of_mem (List.mem_of_getElem? hj)

/-- Where there are two entries every entry has a score, and nobody else has one. -/
theorem mem_names_iff {pairs : List (Nat × Nat)} (hmany : entries.length ≠ 1)
    (hpairs : pairs.Perm (pairings entries.length))
    (hrecords : ∀ pairing ∈ pairs,
      ∃ game, record? entries.toArray rounds pairing = some game) (name : String) :
    (∃ r ∈ (pairs.filterMap (record? entries.toArray rounds)).flatMap GameRecord.scores,
      r.name = name) ↔ name ∈ entries.map Entry.name := by
  constructor
  · rintro ⟨r, hr, rfl⟩
    obtain ⟨game, hgame, hscore⟩ := List.mem_flatMap.mp hr
    obtain ⟨pairing, -, hrecord⟩ := List.mem_filterMap.mp hgame
    exact name_mem_of_record? hrecord hscore
  · intro hmem
    obtain ⟨e, he, rfl⟩ := List.mem_map.mp hmem
    obtain ⟨k, hk, rfl⟩ := List.getElem_of_mem he
    -- The entry meets the first one, or the first entry meets the second.
    obtain ⟨i, j, hij, hj, hplays⟩ : ∃ i j, i < j ∧ j < entries.length ∧
        (k = i ∨ k = j) := by
      rcases Nat.eq_zero_or_pos k with rfl | hpos
      · exact ⟨0, 1, by omega, by omega, .inl rfl⟩
      · exact ⟨0, k, hpos, hk, .inr rfl⟩
    have hpairing : (i, j) ∈ pairs := hpairs.mem_iff.mpr (mem_pairings.mpr ⟨hij, hj⟩)
    obtain ⟨game, hgame⟩ := hrecords _ hpairing
    have hlisted : game ∈ pairs.filterMap (record? entries.toArray rounds) :=
      List.mem_filterMap.mpr ⟨_, hpairing, hgame⟩
    obtain ⟨a, b, result, hi, hj, -, rfl⟩ := record?_eq_some_iff.mp hgame
    rw [List.getElem?_toArray] at hi hj
    rcases hplays with rfl | rfl
    · obtain ⟨_, rfl⟩ := List.getElem?_eq_some_iff.mp hi
      exact ⟨_, List.mem_flatMap.mpr ⟨_, hlisted, List.mem_cons_self⟩, rfl⟩
    · obtain ⟨_, rfl⟩ := List.getElem?_eq_some_iff.mp hj
      exact ⟨_,
        List.mem_flatMap.mpr ⟨_, hlisted, List.mem_cons_of_mem _ List.mem_cons_self⟩,
        rfl⟩

/-- The standings of a whole tournament are the totals of its entries. -/
theorem Outcome.Complete.standings_total {outcome : Outcome}
    (h : outcome.Complete entries rounds) :
    outcome.standings = .ok (sortStandings (entries.map fun e =>
      total (outcome.games.flatMap GameRecord.scores) e.name)) := by
  obtain ⟨pairs, -, -, rfl⟩ := h.exists_pairs
  dsimp only
  rw [standings_foldl_enter, toList_foldl_creditPair h.names]

end Tournament

end TapeDuel
