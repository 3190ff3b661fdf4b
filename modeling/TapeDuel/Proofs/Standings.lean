import Mathlib
import TapeDuel.Proofs.Schedules

/-!
# The order of the entries does not matter

Who is listed first plays on side A, so another list of the same entries turns
some of the games round. A game that is turned round gives the same points to
the same bots. Told by one of its players, with its own points first, a game is
therefore the same on either side, and what a bot achieves (`achieve`) depends
on the set of its opponents alone. The sheet of a tournament holds just that for
every entry (`Playable.standings_eq`).

The final list is sorted, and two bots that it cannot tell apart have the same
name. So different names leave one way only to list the same standings
(`sortStandings_eq_of_perm`).
-/

namespace TapeDuel

/-! ## The final list -/

namespace Standing

theorem precedes_iff {s t : Standing} :
    s.precedes t = true ↔
      t.points < s.points ∨ s.points = t.points ∧ s.name ≤ t.name := by
  rw [precedes, order, Ordering.isLE_then_iff_or, Ordering.isLE_iff_ne_gt,
    compare_lt_iff_lt, compare_eq_iff_eq, compare_gt_iff_gt, not_lt, eq_comm]

theorem precedes_trans {s t u : Standing} (hst : s.precedes t = true)
    (htu : t.precedes u = true) : s.precedes u = true := by
  rw [precedes_iff] at hst htu ⊢
  rcases hst with hst | ⟨hst, hname⟩
  · left
    omega
  · rcases htu with htu | ⟨htu, hname'⟩
    · left
      omega
    · exact .inr ⟨hst.trans htu, le_trans hname hname'⟩

theorem precedes_total (s t : Standing) :
    (s.precedes t || t.precedes s) = true := by
  rw [Bool.or_eq_true, precedes_iff, precedes_iff]
  rcases lt_trichotomy s.points t.points with h | h | h
  · exact .inr (.inl h)
  · rcases le_total s.name t.name with hname | hname
    · exact .inl (.inr ⟨h, hname⟩)
    · exact .inr (.inr ⟨h.symm, hname⟩)
  · exact .inl (.inl h)

theorem name_eq_of_precedes {s t : Standing} (hst : s.precedes t = true)
    (hts : t.precedes s = true) : s.name = t.name := by
  rw [precedes_iff] at hst hts
  rcases hst with hst | ⟨hst, hname⟩
  · omega
  · rcases hts with hts | ⟨-, hname'⟩
    · omega
    · exact le_antisymm hname hname'

end Standing

theorem pairwise_sortStandings (l : List Standing) :
    (sortStandings l).Pairwise fun s t => s.precedes t = true := by
  refine List.pairwise_mergeSort ?_ ?_ l
  · exact fun _ _ _ => Standing.precedes_trans
  · exact Standing.precedes_total

theorem sortStandings_perm (l : List Standing) : (sortStandings l).Perm l :=
  List.mergeSort_perm l _

/-- Standings under different names can be listed in one way only. -/
theorem sortStandings_eq_of_perm {l l' : List Standing}
    (hnames : (l.map Standing.name).Nodup) (h : l.Perm l') :
    sortStandings l = sortStandings l' := by
  have hperm : (sortStandings l).Perm (sortStandings l') :=
    (sortStandings_perm l).trans (h.trans (sortStandings_perm l').symm)
  refine hperm.eq_of_pairwise (fun s t hs ht hst hts => ?_) (pairwise_sortStandings l)
    (pairwise_sortStandings l')
  rw [sortStandings, List.mem_mergeSort] at hs ht
  exact List.inj_on_of_nodup_map hnames hs (h.mem_iff.mpr ht)
    (Standing.name_eq_of_precedes hst hts)

/-! ## Tapes that do not fit into memory -/

namespace Game

variable {a b : Program}

theorem playRound_noRoom {params : RoundParams} (hparams : params.flaw? = none)
    (hroom : params.hasRoom = false) (s : GameState) :
    (playRound .never a b params s).1 = .error (.fault .noRoom) := by
  rw [playRound, if_neg (show ¬ Interrupts.never s.asked = true from
    Bool.false_ne_true), Round.play_of_no_room hparams hroom]

theorem run_task_noRoom (ha : a.Sound) (hb : b.Sound) {rounds : List RoundParams}
    (hvalid : ∀ params ∈ rounds, params.flaw? = none)
    (hroom : ∃ params ∈ rounds, params.hasRoom = false) (s : GameState) :
    ((task .never a b rounds).run s).1 = .error (.fault .noRoom) := by
  induction rounds generalizing s with
  | nil =>
      obtain ⟨_, hmem, -⟩ := hroom
      cases hmem
  | cons params rounds ih =>
      obtain ⟨hparams, hvalid⟩ := List.forall_mem_cons.mp hvalid
      rw [run_task_cons]
      cases hroom₁ : params.hasRoom with
      | true =>
          obtain ⟨s', -, hround, -⟩ := exists_playRound ha hb hparams hroom₁ s
          rw [hround]
          refine ih hvalid ?_ s'
          simpa [hroom₁] using hroom
      | false =>
          have hround := playRound_noRoom (a := a) (b := b) hparams hroom₁ s
          rcases hplay : playRound .never a b params s with ⟨result, s'⟩
          rw [hplay] at hround
          cases (show result = _ from hround)
          rfl

/-- A tape that memory cannot hold ends every game that comes to it. -/
theorem play_noRoom (ha : a.Sound) (hb : b.Sound) {rounds : Rounds}
    (hrounds : rounds.flaw? = none)
    (hroom : ∃ params ∈ rounds.toList, params.hasRoom = false) :
    play .never a b rounds = .error (.fault .noRoom) := by
  have hrun := run_task_noRoom ha hb (Rounds.flaw?_of_mem hrounds) hroom
    ⟨0, .empty⟩
  rw [play, hrounds]
  rcases hplay : (task .never a b rounds.toList).run ⟨0, .empty⟩ with ⟨result, s⟩
  rw [hplay] at hrun
  cases (show result = _ from hrun)
  rfl

end Game

namespace Tournament

/-! ## What a bot achieves -/

/-- The standing of a bot after a game, with its own points first. -/
def meet (rounds : Rounds) (e : Entry) (s : Standing) (opponent : Entry) : Standing :=
  match Game.play .never e.program opponent.program rounds with
  | .ok result => s.add result.aPoints result.bPoints
  | .error _ => s

/-- The standing of a bot after games against these opponents. -/
def achieve (rounds : Rounds) (e : Entry) (opponents : List Entry) : Standing :=
  opponents.foldl (meet rounds e) (Standing.start e.name)

/-- The opponent in a pairing of the entry at a place. -/
def opponent? (entries : List Entry) (k : Nat) (pairing : Nat × Nat) : Option Entry :=
  if pairing.1 = k then entries[pairing.2]?
  else if pairing.2 = k then entries[pairing.1]?
  else none

theorem meet_right_comm (rounds : Rounds) (e : Entry) (s : Standing)
    (o o' : Entry) :
    meet rounds e (meet rounds e s o) o' = meet rounds e (meet rounds e s o') o := by
  simp only [meet]
  split <;> split <;> simp only [Standing.add_right_comm]

theorem name_meet (rounds : Rounds) (e : Entry) (s : Standing) (o : Entry) :
    (meet rounds e s o).name = s.name := by
  rw [meet]
  split <;> rfl

theorem name_achieve (rounds : Rounds) (e : Entry) (opponents : List Entry) :
    (achieve rounds e opponents).name = e.name := by
  suffices h : ∀ s : Standing, (opponents.foldl (meet rounds e) s).name = s.name from
    h _
  induction opponents with
  | nil => exact fun s => rfl
  | cons o opponents ih =>
      intro s
      rw [List.foldl_cons, ih, name_meet]

theorem achieve_perm (rounds : Rounds) (e : Entry) {opponents opponents' : List Entry}
    (h : opponents.Perm opponents') :
    achieve rounds e opponents = achieve rounds e opponents' :=
  h.foldl_eq' (fun o _ o' _ s => meet_right_comm rounds e s o o') _

section Sheet

variable {entries : List Entry} {rounds : Rounds}

/-- A game adds to the standing at a place what the entry there has achieved in
it, whichever side it was on. -/
theorem getElem?_creditPair (h : Playable entries rounds) {k : Nat} {e : Entry}
    (hk : entries[k]? = some e) (standings : Array Standing) {pairing : Nat × Nat}
    (hpairing : pairing ∈ pairings entries.length) :
    (creditPair entries.toArray rounds standings pairing)[k]? =
      standings[k]?.map fun s =>
        (opponent? entries k pairing).elim s (meet rounds e s) := by
  obtain ⟨i, j⟩ := pairing
  obtain ⟨hij, -⟩ := mem_pairings.mp hpairing
  obtain ⟨game, hgame⟩ := h.exists_record _ hpairing
  obtain ⟨a, b, result, hi, hj, hplay, rfl⟩ := record?_eq_some_iff.mp hgame
  rw [List.getElem?_toArray] at hi hj
  rw [creditPair, hgame]
  simp only [credit_eq, Array.getElem?_modify, opponent?]
  by_cases hik : i = k
  · -- The entry is on side A.
    have hjk : j ≠ k := by omega
    obtain rfl : a = e := by
      rw [hik, hk] at hi
      exact (Option.some.inj hi).symm
    rw [if_neg hjk, if_pos hik, if_pos hik, show entries[j]? = some b from hj]
    simp only [Option.elim_some, meet, hplay]
  · by_cases hjk : j = k
    · -- It is on side B, where the same game is told with the other points first.
      obtain rfl : b = e := by
        rw [hjk, hk] at hj
        exact (Option.some.inj hj).symm
      obtain ⟨sa, ha⟩ := h.compiled a (List.mem_of_getElem? hi)
      obtain ⟨sb, hb⟩ := h.compiled b (List.mem_of_getElem? hj)
      have hswap := Game.play_swap .never (Source.sound_of_compile ha)
        (Source.sound_of_compile hb) rounds
      rw [hplay] at hswap
      rw [if_pos hjk, if_neg hik, if_neg hik, if_pos hjk,
        show entries[i]? = some a from hi]
      simp only [Option.elim_some, meet, hswap]
      rfl
    · rw [if_neg hjk, if_neg hik, if_neg hik, if_neg hjk]
      simp only [Option.elim_none, Option.map_id']

theorem size_foldl_creditPair (pairs : List (Nat × Nat)) (standings : Array Standing) :
    (pairs.foldl (creditPair entries.toArray rounds) standings).size =
      standings.size := by
  induction pairs generalizing standings with
  | nil => rfl
  | cons pairing pairs ih =>
      rw [List.foldl_cons, ih, creditPair]
      split
      · rw [credit_eq, Array.size_modify, Array.size_modify]
      · rfl

theorem getElem?_foldl_creditPair (h : Playable entries rounds) {k : Nat} {e : Entry}
    (hk : entries[k]? = some e) {pairs : List (Nat × Nat)}
    (hpairs : ∀ pairing ∈ pairs, pairing ∈ pairings entries.length)
    (standings : Array Standing) :
    (pairs.foldl (creditPair entries.toArray rounds) standings)[k]? =
      standings[k]?.map fun s =>
        (pairs.filterMap (opponent? entries k)).foldl (meet rounds e) s := by
  induction pairs generalizing standings with
  | nil => simp
  | cons pairing pairs ih =>
      obtain ⟨hpairing, hpairs⟩ := List.forall_mem_cons.mp hpairs
      rw [List.foldl_cons, ih hpairs, getElem?_creditPair h hk _ hpairing,
        Option.map_map]
      congr 1
      funext s
      cases ho : opponent? entries k pairing with
      | none => simp [ho]
      | some o => simp [ho]

/-! ## The opponents of a bot -/

theorem getElem?_inj (hnames : (entries.map Entry.name).Nodup) {i j : Nat}
    {a b : Entry} (hi : entries[i]? = some a) (hj : entries[j]? = some b)
    (hname : a.name = b.name) : i = j := by
  obtain ⟨hlt, -⟩ := List.getElem?_eq_some_iff.mp hi
  refine (List.getElem?_inj (by rwa [List.length_map]) hnames).mp ?_
  rw [List.getElem?_map, List.getElem?_map, hi, hj, Option.map_some, Option.map_some,
    hname]

theorem opponent?_eq_some_iff {k i j : Nat} {o : Entry} (hij : i < j) :
    opponent? entries k (i, j) = some o ↔
      ∃ m, entries[m]? = some o ∧ (i = k ∧ j = m ∨ i = m ∧ j = k) := by
  rw [opponent?]
  by_cases hik : i = k
  · subst hik
    rw [if_pos rfl]
    constructor
    · exact fun ho => ⟨j, ho, .inl ⟨rfl, rfl⟩⟩
    · rintro ⟨m, ho, ⟨-, rfl⟩ | ⟨rfl, rfl⟩⟩
      · exact ho
      · exact absurd hij (Nat.lt_irrefl _)
  · rw [if_neg hik]
    by_cases hjk : j = k
    · subst hjk
      rw [if_pos rfl]
      constructor
      · exact fun ho => ⟨i, ho, .inr ⟨rfl, rfl⟩⟩
      · rintro ⟨m, ho, ⟨rfl, -⟩ | ⟨rfl, -⟩⟩
        · exact absurd rfl hik
        · exact ho
    · rw [if_neg hjk]
      refine ⟨nofun, ?_⟩
      rintro ⟨m, -, ⟨rfl, -⟩ | ⟨-, rfl⟩⟩
      · exact absurd rfl hik
      · exact absurd rfl hjk

/-- Every other entry is the opponent of an entry once. -/
theorem opponents_perm (hnames : (entries.map Entry.name).Nodup) {k : Nat} {e : Entry}
    (hk : entries[k]? = some e) :
    ((pairings entries.length).filterMap (opponent? entries k)).Perm
      (entries.filter fun o => o.name ≠ e.name) := by
  refine (List.perm_ext_iff_of_nodup ?_ ?_).mpr fun o => ?_
  · refine (List.Pairwise.and_mem.mp (nodup_pairings _)).filterMap _ ?_
    rintro ⟨i, j⟩ ⟨i', j'⟩ ⟨hmem, hmem', hne⟩ o ho o' ho' rfl
    obtain ⟨hij, -⟩ := mem_pairings.mp hmem
    obtain ⟨hij', -⟩ := mem_pairings.mp hmem'
    obtain ⟨m, hm, hcase⟩ := (opponent?_eq_some_iff hij).mp ho
    obtain ⟨m', hm', hcase'⟩ := (opponent?_eq_some_iff hij').mp ho'
    obtain rfl := getElem?_inj hnames hm hm' rfl
    refine hne (Prod.ext ?_ ?_) <;> dsimp only <;> omega
  · exact (List.Nodup.of_map _ hnames).filter _
  · rw [List.mem_filterMap, List.mem_filter, decide_eq_true_iff]
    constructor
    · rintro ⟨⟨i, j⟩, hmem, ho⟩
      obtain ⟨hij, -⟩ := mem_pairings.mp hmem
      obtain ⟨m, hm, hcase⟩ := (opponent?_eq_some_iff hij).mp ho
      refine ⟨List.mem_of_getElem? hm, fun hname => ?_⟩
      have hmk := getElem?_inj hnames hm hk hname
      omega
    · rintro ⟨hmem, hname⟩
      obtain ⟨m, hm⟩ := List.getElem?_of_mem hmem
      obtain ⟨hmlt, -⟩ := List.getElem?_eq_some_iff.mp hm
      obtain ⟨hklt, -⟩ := List.getElem?_eq_some_iff.mp hk
      have hmk : m ≠ k := by
        rintro rfl
        rw [hk] at hm
        exact hname (congrArg Entry.name (Option.some.inj hm)).symm
      rcases Nat.lt_or_gt_of_ne hmk with hlt | hlt
      · exact ⟨(m, k), mem_pairings.mpr ⟨hlt, hklt⟩,
          (opponent?_eq_some_iff hlt).mpr ⟨m, hm, .inr ⟨rfl, rfl⟩⟩⟩
      · exact ⟨(k, m), mem_pairings.mpr ⟨hlt, hmlt⟩,
          (opponent?_eq_some_iff hlt).mpr ⟨m, hm, .inl ⟨rfl, rfl⟩⟩⟩

/-! ## The sheet at the end -/

/-- What every entry achieves against all others, in the order of the entries. -/
def achievements (rounds : Rounds) (entries : List Entry) : List Standing :=
  entries.map fun e => achieve rounds e (entries.filter fun o => o.name ≠ e.name)

theorem map_name_achievements (rounds : Rounds) (entries : List Entry) :
    (achievements rounds entries).map Standing.name = entries.map Entry.name := by
  simp [achievements, Function.comp_def, name_achieve]

theorem achievements_perm {entries' : List Entry} (h : entries.Perm entries') :
    (achievements rounds entries).Perm (achievements rounds entries') := by
  have hsame : ∀ e, achieve rounds e (entries.filter fun o => o.name ≠ e.name) =
      achieve rounds e (entries'.filter fun o => o.name ≠ e.name) :=
    fun e => achieve_perm rounds e (h.filter _)
  simp only [achievements, hsame]
  exact h.map _

/-- When all games were entered, the sheet holds what every entry has achieved. -/
theorem Playable.standings_eq (h : Playable entries rounds) :
    ((pairings entries.length).foldl (State.enter entries.toArray rounds)
      (State.start entries)).standings.toList = achievements rounds entries := by
  rw [standings_foldl_enter]
  refine List.ext_getElem? fun k => ?_
  rw [Array.getElem?_toList]
  cases hk : entries[k]? with
  | none =>
      have hle : entries.length ≤ k := List.getElem?_eq_none_iff.mp hk
      rw [Array.getElem?_eq_none, List.getElem?_eq_none]
      · simpa [achievements] using hle
      · simpa [size_foldl_creditPair, State.start] using hle
  | some e =>
      have hstart : (State.start entries).standings[k]? =
          some (Standing.start e.name) := by
        simp [State.start, hk]
      have hend : (achievements rounds entries)[k]? =
          some (achieve rounds e (entries.filter fun o => o.name ≠ e.name)) := by
        rw [achievements, List.getElem?_map, hk]
        rfl
      rw [getElem?_foldl_creditPair h hk fun _ hmem => hmem, hstart, hend,
        Option.map_some]
      exact congrArg some (achieve_perm rounds e (opponents_perm h.names hk))

/-- What a tournament that cannot fail comes to, in whatever order its games are
entered. -/
theorem Playable.sort_foldl_enter_eq (h : Playable entries rounds)
    {pairs : List (Nat × Nat)} (hpairs : pairs.Perm (pairings entries.length)) :
    sortStandings (pairs.foldl (State.enter entries.toArray rounds)
      (State.start entries)).standings.toList =
        sortStandings (achievements rounds entries) := by
  rw [standings_foldl_enter_perm hpairs, h.standings_eq]

theorem sort_achievements_perm {entries' : List Entry} (h : entries.Perm entries')
    (hnames : (entries.map Entry.name).Nodup) :
    sortStandings (achievements rounds entries') =
      sortStandings (achievements rounds entries) := by
  refine (sortStandings_eq_of_perm ?_ (achievements_perm h)).symm
  rwa [map_name_achievements]

end Sheet

/-! ## Other lists of the same entries -/

section Reordered

variable {entries entries' : List Entry} {rounds : Rounds} {parallelism : Int}
  {report : Report}

theorem Playable.perm (h : Playable entries rounds) (hperm : entries.Perm entries') :
    Playable entries' rounds where
  names := (hperm.map Entry.name).nodup_iff.mp h.names
  compiled e he := h.compiled e (hperm.mem_iff.mpr he)
  valid := h.valid
  room := h.room

theorem Playable.standings_play (h : Playable entries rounds)
    (hparallelism : parallelism ≤ Semaphore.maxCapacity)
    (hreport : ∀ n game, report n game = none) :
    (play false parallelism entries rounds report).standings =
      .ok (sortStandings (achievements rounds entries)) := by
  rw [h.play_eq hparallelism hreport, h.sort_foldl_enter_eq (List.Perm.refl _)]

theorem Playable.standings_scheduled (h : Playable entries rounds)
    (hparallelism : parallelism ≤ Semaphore.maxCapacity)
    (hreport : ∀ n game, report n game = none) {events : List Event}
    {outcome : Outcome}
    (hscheduled : scheduled parallelism entries rounds report events = some outcome) :
    outcome.standings = .ok (sortStandings (achievements rounds entries)) := by
  obtain ⟨hall, hrun, hover, rfl⟩ :=
    (scheduled_eq_some_iff h hparallelism).mp hscheduled
  obtain ⟨ho, -, -⟩ := (Hall.orderly_opening h parallelism).run hreport hrun
  obtain ⟨pairs, hpairs, houtcome⟩ := ho.outcome_eq hover
  rw [houtcome, h.sort_foldl_enter_eq hpairs]

/-- Without memory for its tapes a tournament is left in its first game, unless
it has none. -/
theorem standings_play_noRoom (hnames : (entries.map Entry.name).Nodup)
    (hcompiled : ∀ e ∈ entries, ∃ source : Source, source.compile = .ok e.program)
    (hvalid : rounds.flaw? = none)
    (hroom : ∃ params ∈ rounds.toList, params.hasRoom = false)
    (hparallelism : parallelism ≤ Semaphore.maxCapacity)
    (hlength : 1 < entries.length) :
    (play false parallelism entries rounds report).standings =
      .error (.fault .noRoom) := by
  rw [play, duplicated?_eq_none hnames, Semaphore.new?_max hparallelism]
  cases hpairs : pairings entries.length with
  | nil =>
      have hmem : (0, 1) ∈ pairings entries.length :=
        mem_pairings.mpr ⟨by omega, hlength⟩
      rw [hpairs] at hmem
      cases hmem
  | cons pairing pairs =>
      obtain ⟨i, j⟩ := pairing
      obtain ⟨hij, hj⟩ := mem_pairings.mp
        (show (i, j) ∈ pairings entries.length from hpairs ▸ List.mem_cons_self)
      have hi : i < entries.length := Nat.lt_trans hij hj
      obtain ⟨sa, ha⟩ := hcompiled entries[i] (List.getElem_mem hi)
      obtain ⟨sb, hb⟩ := hcompiled entries[j] (List.getElem_mem hj)
      have hplay := Game.play_noRoom (Source.sound_of_compile ha)
        (Source.sound_of_compile hb) hvalid hroom
      simp [playFrom, hi, hj, hplay, gameFailure, Failure.isCrash]

theorem standings_play_perm (hperm : entries.Perm entries')
    (hnames : (entries.map Entry.name).Nodup)
    (hcompiled : ∀ e ∈ entries, ∃ source : Source, source.compile = .ok e.program)
    (hvalid : rounds.flaw? = none) (hreport : ∀ n game, report n game = none) :
    (play false parallelism entries' rounds report).standings =
      (play false parallelism entries rounds report).standings := by
  have hnames' : (entries'.map Entry.name).Nodup :=
    (hperm.map Entry.name).nodup_iff.mp hnames
  have hcompiled' : ∀ e ∈ entries', ∃ source : Source,
      source.compile = .ok e.program :=
    fun e he => hcompiled e (hperm.mem_iff.mpr he)
  by_cases hparallelism : parallelism ≤ Semaphore.maxCapacity
  · by_cases hroom : ∀ params ∈ rounds.toList, params.hasRoom = true
    · have h : Playable entries rounds := ⟨hnames, hcompiled, hvalid, hroom⟩
      rw [h.standings_play hparallelism hreport,
        (h.perm hperm).standings_play hparallelism hreport,
        sort_achievements_perm hperm hnames]
    · have hroom : ∃ params ∈ rounds.toList, params.hasRoom = false := by
        simpa using hroom
      by_cases hlength : 1 < entries.length
      · have hlength' : 1 < entries'.length := hperm.length_eq ▸ hlength
        rw [standings_play_noRoom hnames hcompiled hvalid hroom hparallelism hlength,
          standings_play_noRoom hnames' hcompiled' hvalid hroom hparallelism hlength']
      · -- Fewer than two entries have one order only.
        match entries, hlength with
        | [], _ => rw [hperm.symm.eq_nil]
        | [e], _ => rw [List.perm_singleton.mp hperm.symm]
        | _ :: _ :: _, hlength => simp at hlength
  · have hfull : Semaphore.new? (max parallelism 1) = .error .noRoom := by
      rw [Semaphore.new?, if_neg (by omega)]
    rw [play, play, duplicated?_eq_none hnames, duplicated?_eq_none hnames', hfull]

/-- Who is listed first plays on side A, but the standings do not depend on it:
another list of the same entries comes to the same end, which is a list of
standings whenever there is memory for the tapes and for the games at once. It is
the same list for both orders and for every schedule of either. -/
theorem order_of_entries_does_not_matter (hperm : entries.Perm entries')
    (hnames : (entries.map Entry.name).Nodup)
    (hcompiled : ∀ e ∈ entries, ∃ source : Source, source.compile = .ok e.program)
    (hvalid : rounds.flaw? = none) (hreport : ∀ n game, report n game = none) :
    (play false parallelism entries' rounds report).standings =
      (play false parallelism entries rounds report).standings ∧
    ((∀ params ∈ rounds.toList, params.hasRoom = true) →
      parallelism ≤ Semaphore.maxCapacity → ∃ standings,
        (play false parallelism entries rounds report).standings = .ok standings ∧
        (∀ events outcome,
          scheduled parallelism entries rounds report events = some outcome →
          outcome.standings = .ok standings) ∧
        ∀ events outcome,
          scheduled parallelism entries' rounds report events = some outcome →
          outcome.standings = .ok standings) := by
  refine ⟨standings_play_perm hperm hnames hcompiled hvalid hreport,
    fun hroom hparallelism => ?_⟩
  have h : Playable entries rounds := ⟨hnames, hcompiled, hvalid, hroom⟩
  refine ⟨_, h.standings_play hparallelism hreport, fun events outcome hscheduled => ?_,
    fun events outcome hscheduled => ?_⟩
  · exact h.standings_scheduled hparallelism hreport hscheduled
  · rw [(h.perm hperm).standings_scheduled hparallelism hreport hscheduled,
      sort_achievements_perm hperm hnames]

/-- The theorem at three bots in the opposite order, where every game is turned
round, over a normal and an inverted round. -/
theorem order_of_entries_does_not_matter_reversed :
    threeBots.Perm threeBots.reverse ∧ (threeBots.map Entry.name).Nodup ∧
      (Rounds.listed [⟨2, false, 3⟩, ⟨3, true, 4⟩]).flaw? = none ∧
      (play false 2 threeBots.reverse (.listed [⟨2, false, 3⟩, ⟨3, true, 4⟩])
        fun _ _ => none).standings =
      (play false 2 threeBots (.listed [⟨2, false, 3⟩, ⟨3, true, 4⟩])
        fun _ _ => none).standings ∧
      ∃ standings, (play false 2 threeBots
        (.listed [⟨2, false, 3⟩, ⟨3, true, 4⟩]) fun _ _ => none).standings =
          .ok standings := by
  have hperm : threeBots.Perm threeBots.reverse := (List.reverse_perm _).symm
  have hvalid : (Rounds.listed [⟨2, false, 3⟩, ⟨3, true, 4⟩]).flaw? = none := by decide
  have hreport : ∀ n game, (fun _ _ => none : Report) n game = none := fun _ _ => rfl
  obtain ⟨hsame, hlist⟩ := order_of_entries_does_not_matter hperm
    playable_threeBots.names playable_threeBots.compiled hvalid hreport
  obtain ⟨standings, hstandings, -⟩ := hlist (by decide)
    (show (2 : Int) ≤ Semaphore.maxCapacity by decide)
  exact ⟨hperm, playable_threeBots.names, hvalid, hsame, standings, hstandings⟩

end Reordered

end Tournament

end TapeDuel
