import Mathlib
import TapeDuel.Match.Tournament
import TapeDuel.Proofs.MirrorRounds
import TapeDuel.Proofs.RoundSequences

/-!
# The score sheet of a tournament

When its bots are compiled and its rounds are valid and have room, every game of
a tournament is played to its end, and its record is a function of the pair that
plays it. A tournament without failures then only enters one record after the
other on its sheet (`Playable.play_eq`).

Entering records is adding numbers. The order does not matter for the standings
(`standings_foldl_enter_perm`), and the games come out in the order in which
they went in.
-/

namespace TapeDuel

/-! ## Games that are played to their end -/

/-- The record of a round, as it is played alone and by nobody stopped. -/
def Round.Recorded (a b : Program) (params : RoundParams) (record : RoundRecord) :
    Prop :=
  ∃ verdict steps asked,
    play .never 0 a b params = .ok (.finished verdict steps, asked) ∧
      verdict.isOngoing = false ∧ record = ⟨params, verdict, steps⟩

namespace Game

variable {a b : Program}

/-- The inquiries that were made before do not matter to a round. -/
theorem exists_playRound (ha : a.Sound) (hb : b.Sound) {params : RoundParams}
    (hparams : params.flaw? = none) (hroom : params.hasRoom = true)
    (s : GameState) :
    ∃ s' record, playRound .never a b params s = (.ok (), s') ∧
      s'.result = s.result.add record ∧ Round.Recorded a b params record := by
  obtain ⟨verdict, steps, hfin, hplay⟩ := Round.exists_ending ha hb hparams hroom
  obtain ⟨asked, hround⟩ := hplay (s.asked + 1)
  obtain ⟨asked₀, halone⟩ := hplay 0
  have hover : verdict.isOngoing = false := by
    obtain ⟨aLost, bLost⟩ := verdict
    cases aLost <;> cases bLost
    · cases hfin
    all_goals rfl
  refine ⟨⟨asked, s.result.add ⟨params, verdict, steps⟩⟩,
    ⟨params, verdict, steps⟩, ?_, rfl, verdict, steps, asked₀, halone, hover, rfl⟩
  rw [playRound, if_neg (show ¬ Interrupts.never s.asked = true from
    Bool.false_ne_true)]
  simp only [hround]

/-- The chain of a game adds one record for each of its rounds. -/
theorem exists_run_task (ha : a.Sound) (hb : b.Sound) {rounds : List RoundParams}
    (hvalid : ∀ params ∈ rounds, params.flaw? = none)
    (hroom : ∀ params ∈ rounds, params.hasRoom = true) (s : GameState) :
    ∃ s' records, (task .never a b rounds).run s = (.ok (), s') ∧
      s'.result = records.foldl GameResult.add s.result ∧
      List.Forall₂ (Round.Recorded a b) rounds records := by
  induction rounds generalizing s with
  | nil => exact ⟨s, [], run_task_nil .never a b s, rfl, .nil⟩
  | cons params rounds ih =>
      obtain ⟨hparams, hvalid⟩ := List.forall_mem_cons.mp hvalid
      obtain ⟨hroom₁, hroom⟩ := List.forall_mem_cons.mp hroom
      obtain ⟨s₁, record, hround, hadd, hrecord⟩ :=
        exists_playRound ha hb hparams hroom₁ s
      obtain ⟨s', records, hrest, hresult, hrecords⟩ := ih hvalid hroom s₁
      refine ⟨s', record :: records, ?_, ?_, .cons hrecord hrecords⟩
      · rw [run_task_cons, hround]
        exact hrest
      · rw [hresult, hadd, List.foldl_cons]

theorem exists_foldl_records (ha : a.Sound) (hb : b.Sound) {rounds : Rounds}
    (hrounds : rounds.flaw? = none)
    (hroom : ∀ params ∈ rounds.toList, params.hasRoom = true) :
    ∃ records : List RoundRecord,
      play .never a b rounds = .ok (records.foldl GameResult.add .empty) ∧
      List.Forall₂ (Round.Recorded a b) rounds.toList records := by
  obtain ⟨s, records, hrun, hresult, hrecords⟩ :=
    exists_run_task ha hb (Rounds.flaw?_of_mem hrounds) hroom ⟨0, .empty⟩
  refine ⟨records, ?_, hrecords⟩
  rw [play, hrounds]
  dsimp only
  rw [hrun, ← hresult]

theorem exists_result (ha : a.Sound) (hb : b.Sound) {rounds : Rounds}
    (hrounds : rounds.flaw? = none)
    (hroom : ∀ params ∈ rounds.toList, params.hasRoom = true) :
    ∃ result, play .never a b rounds = .ok result := by
  obtain ⟨records, hplay, -⟩ := exists_foldl_records ha hb hrounds hroom
  exact ⟨_, hplay⟩

end Game

/-! ## Credits in any order -/

namespace Standing

/-- The standing after a game with `own` points against `other` points. -/
def add (s : Standing) (own other : Int) : Standing :=
  { s with
    points := s.points + own
    wins := s.wins + if other < own then 1 else 0
    losses := s.losses + if own < other then 1 else 0
    draws := s.draws + if own = other then 1 else 0 }

theorem add_right_comm (s : Standing) (own other own' other' : Int) :
    (s.add own other).add own' other' = (s.add own' other').add own other := by
  simp only [add, Standing.mk.injEq, true_and]
  omega

section Score

variable {own other : Int} (s : Standing)

theorem win_score (h : other < own) : (s.score own).win = s.add own other := by
  rw [add, if_pos h, if_neg (by omega), if_neg (by omega)]
  rfl

theorem lose_score (h : own < other) : (s.score own).lose = s.add own other := by
  rw [add, if_neg (by omega), if_pos h, if_neg (by omega)]
  rfl

theorem draw_score (h : own = other) : (s.score own).draw = s.add own other := by
  rw [add, if_neg (by omega), if_neg (by omega), if_pos h]
  rfl

end Score

end Standing

/-- Changes of an array that commute in one place commute in all places. -/
theorem modify_right_comm {α : Type} (xs : Array α) {f g : α → α}
    (h : ∀ x, f (g x) = g (f x)) (i j : Nat) :
    (xs.modify i f).modify j g = (xs.modify j g).modify i f := by
  refine Array.ext_getElem? fun k => ?_
  simp only [Array.getElem?_modify]
  split <;> split <;> simp [Function.comp_def, h]

/-- A semaphore for as many games as memory has room for. -/
theorem Semaphore.new?_max {parallelism : Int}
    (h : parallelism ≤ Semaphore.maxCapacity) :
    Semaphore.new? (max parallelism 1) =
      .ok (.new (max parallelism 1).toNat) := by
  have : (1 : Int) ≤ Semaphore.maxCapacity := by decide
  rw [Semaphore.new?, if_pos (by omega)]

namespace Tournament

/-- First the points of both players and then who has won, or one player after the other:
it comes to the same. -/
theorem modify_score {own own' : Int} {f f' g g' : Standing → Standing}
    (hfirst : ∀ s, f (s.score own) = g s) (hsecond : ∀ s, f' (s.score own') = g' s)
    (hcomm : ∀ s, (f s).score own' = f (s.score own'))
    (standings : Array Standing) (i j : Nat) :
    (((standings.modify i (·.score own)).modify j (·.score own')).modify i f).modify j
        f' =
      (standings.modify i g).modify j g' := by
  have hswap : ((standings.modify i (·.score own)).modify j (·.score own')).modify i f =
      ((standings.modify i (·.score own)).modify i f).modify j (·.score own') :=
    modify_right_comm _ hcomm j i
  rw [hswap]
  refine Array.ext_getElem? fun k => ?_
  simp only [Array.getElem?_modify]
  split <;> split <;> simp [Function.comp_def, hfirst, hsecond]

/-- A game adds to both lines what its players tell of it. -/
theorem credit_eq (standings : Array Standing) (i j : Nat) (g : GameResult) :
    credit standings i j g =
      (standings.modify i (·.add g.aPoints g.bPoints)).modify j
        (·.add g.bPoints g.aPoints) := by
  rw [credit]
  rcases Int.lt_trichotomy g.aPoints g.bPoints with h | h | h
  · rw [if_neg (by omega), if_pos h]
    exact modify_score (fun s => s.lose_score h) (fun s => s.win_score h)
      (fun _ => rfl) _ i j
  · rw [if_neg (by omega), if_neg (by omega)]
    exact modify_score (fun s => s.draw_score h) (fun s => s.draw_score h.symm)
      (fun _ => rfl) _ i j
  · rw [if_pos h]
    exact modify_score (fun s => s.win_score h) (fun s => s.lose_score h)
      (fun _ => rfl) _ i j

theorem credit_right_comm (standings : Array Standing) (i j i' j' : Nat)
    (g g' : GameResult) :
    credit (credit standings i j g) i' j' g' =
      credit (credit standings i' j' g') i j g := by
  have hcomm : ∀ {own other own' other' : Int} (xs : Array Standing) (k k' : Nat),
      (xs.modify k (·.add own other)).modify k' (·.add own' other') =
        (xs.modify k' (·.add own' other')).modify k (·.add own other) :=
    fun xs k k' => modify_right_comm xs (fun s => s.add_right_comm _ _ _ _) k k'
  simp only [credit_eq]
  rw [hcomm _ j i', hcomm _ i i', hcomm _ j j', hcomm _ i j']

/-! ## The pairs -/

theorem mem_pairings {n i j : Nat} : (i, j) ∈ pairings n ↔ i < j ∧ j < n := by
  simp only [pairings, List.mem_flatMap, List.mem_range, List.mem_map,
    List.mem_range'_1, Prod.mk.injEq]
  constructor
  · rintro ⟨i', hi', j', hj', rfl, rfl⟩
    omega
  · rintro ⟨hij, hjn⟩
    exact ⟨i, by omega, j, by omega, rfl, rfl⟩

theorem nodup_pairings (n : Nat) : (pairings n).Nodup := by
  rw [pairings, List.nodup_flatMap]
  refine ⟨fun i _ => ?_, ?_⟩
  · exact List.Nodup.map (fun j j' h => (Prod.mk.inj h).2) List.nodup_range'
  · refine List.Pairwise.imp ?_ List.nodup_range
    intro i i' hne p hp hp'
    obtain ⟨j, -, rfl⟩ := List.mem_map.mp hp
    obtain ⟨j', -, h⟩ := List.mem_map.mp hp'
    exact hne (Prod.mk.inj h).1.symm

theorem duplicated?_eq_none {entries : List Entry}
    (h : (entries.map Entry.name).Nodup) : duplicated? entries = none := by
  induction entries with
  | nil => rfl
  | cons e rest ih =>
      rw [List.map_cons, List.nodup_cons] at h
      rw [duplicated?, if_neg ?_, ih h.2]
      intro hany
      obtain ⟨e', he', hname⟩ := List.any_eq_true.mp hany
      rw [beq_iff_eq] at hname
      exact h.1 (List.mem_map.mpr ⟨e', he', hname⟩)

/-! ## Records -/

/-- The record of the game of a pair that nobody stops. -/
def record? (entries : Array Entry) (rounds : Rounds) (pairing : Nat × Nat) :
    Option GameRecord :=
  match entries[pairing.1]?, entries[pairing.2]? with
  | some a, some b =>
    match Game.play .never a.program b.program rounds with
    | .ok result => some ⟨a.name, b.name, result⟩
    | .error _ => none
  | _, _ => none

/-- The standings after the game of a pair. -/
def creditPair (entries : Array Entry) (rounds : Rounds)
    (standings : Array Standing) (pairing : Nat × Nat) : Array Standing :=
  match record? entries rounds pairing with
  | some game => credit standings pairing.1 pairing.2 game.result
  | none => standings

/-- The sheet with the game of a pair entered on it. -/
def State.enter (entries : Array Entry) (rounds : Rounds) (s : State)
    (pairing : Nat × Nat) : State :=
  ⟨creditPair entries rounds s.standings pairing,
    (record? entries rounds pairing).toList ++ s.reported⟩

/-- The sheet before the first game. -/
def State.start (entries : List Entry) : State :=
  ⟨(entries.map fun e => Standing.start e.name).toArray, []⟩

section Enter

variable {entries : Array Entry} {rounds : Rounds}

theorem record?_eq_some_iff {pairing : Nat × Nat} {game : GameRecord} :
    record? entries rounds pairing = some game ↔
      ∃ a b result, entries[pairing.1]? = some a ∧ entries[pairing.2]? = some b ∧
        Game.play .never a.program b.program rounds = .ok result ∧
        game = ⟨a.name, b.name, result⟩ := by
  rw [record?]
  cases entries[pairing.1]? with
  | none => simp
  | some a =>
      cases entries[pairing.2]? with
      | none => simp
      | some b =>
          cases h : Game.play .never a.program b.program rounds with
          | error failure => simp [h]
          | ok result => simp [h, eq_comm]

theorem play_of_record? {pairing : Nat × Nat} {game : GameRecord} {a b : Entry}
    (hgame : record? entries rounds pairing = some game)
    (ha : entries[pairing.1]? = some a) (hb : entries[pairing.2]? = some b) :
    ∃ result, Game.play .never a.program b.program rounds = .ok result ∧
      game = ⟨a.name, b.name, result⟩ := by
  obtain ⟨a', b', result, ha', hb', hplay, hrecord⟩ := record?_eq_some_iff.mp hgame
  cases ha'.symm.trans ha
  cases hb'.symm.trans hb
  exact ⟨result, hplay, hrecord⟩

theorem enter_eq {s : State} {pairing : Nat × Nat} {game : GameRecord}
    (h : record? entries rounds pairing = some game) :
    s.enter entries rounds pairing =
      ⟨credit s.standings pairing.1 pairing.2 game.result, game :: s.reported⟩ := by
  rw [State.enter, creditPair, h]
  rfl

theorem reported_foldl_enter (pairs : List (Nat × Nat)) (s : State) :
    (pairs.foldl (State.enter entries rounds) s).reported =
      (pairs.filterMap (record? entries rounds)).reverse ++ s.reported := by
  induction pairs generalizing s with
  | nil => rfl
  | cons pairing pairs ih =>
      rw [List.foldl_cons, ih, State.enter]
      cases h : record? entries rounds pairing with
      | none =>
          rw [List.filterMap_cons_none h]
          rfl
      | some game =>
          rw [List.filterMap_cons_some h, List.reverse_cons, List.append_assoc]
          rfl

theorem standings_foldl_enter (pairs : List (Nat × Nat)) (s : State) :
    (pairs.foldl (State.enter entries rounds) s).standings =
      pairs.foldl (creditPair entries rounds) s.standings := by
  induction pairs generalizing s with
  | nil => rfl
  | cons pairing pairs ih => rw [List.foldl_cons, List.foldl_cons, ih, State.enter]

theorem creditPair_right_comm (standings : Array Standing)
    (pairing pairing' : Nat × Nat) :
    creditPair entries rounds (creditPair entries rounds standings pairing)
        pairing' =
      creditPair entries rounds (creditPair entries rounds standings pairing')
        pairing := by
  simp only [creditPair]
  cases record? entries rounds pairing with
  | none => rfl
  | some game =>
      cases record? entries rounds pairing' with
      | none => rfl
      | some game' => exact credit_right_comm _ _ _ _ _ _ _

/-- The order in which games are entered does not matter for the standings. -/
theorem standings_foldl_enter_perm {pairs pairs' : List (Nat × Nat)}
    (h : pairs.Perm pairs') (s : State) :
    (pairs.foldl (State.enter entries rounds) s).standings =
      (pairs'.foldl (State.enter entries rounds) s).standings := by
  rw [standings_foldl_enter, standings_foldl_enter]
  exact h.foldl_eq' (fun p _ p' _ standings =>
    creditPair_right_comm standings p p') s.standings

/-- Playing the pairs that are left, when every game has a record and every
report succeeds. -/
theorem playFrom_eq {report : Report} (hreport : ∀ n game, report n game = none)
    {pairs : List (Nat × Nat)}
    (hpairs : ∀ pairing ∈ pairs, ∃ game, record? entries rounds pairing = some game)
    (s : State) :
    playFrom entries rounds report pairs s =
      ⟨(pairs.foldl (State.enter entries rounds) s).reported.reverse,
        .ok (sortStandings
          (pairs.foldl (State.enter entries rounds) s).standings.toList)⟩ := by
  induction pairs generalizing s with
  | nil => rfl
  | cons pairing pairs ih =>
      obtain ⟨⟨game, hgame⟩, hpairs⟩ := List.forall_mem_cons.mp hpairs
      obtain ⟨a, b, result, ha, hb, hplay, rfl⟩ := record?_eq_some_iff.mp hgame
      rw [List.foldl_cons, enter_eq hgame, ← ih hpairs, playFrom, ha, hb]
      simp only [hplay, hreport]

end Enter

/-! ## Tournaments that cannot fail -/

/-- The bots have different names and are compiled; the rounds are valid, and
their tapes fit into memory. -/
structure Playable (entries : List Entry) (rounds : Rounds) : Prop where
  names : (entries.map Entry.name).Nodup
  compiled : ∀ e ∈ entries, ∃ source : Source, source.compile = .ok e.program
  valid : rounds.flaw? = none
  room : ∀ params ∈ rounds.toList, params.hasRoom = true

section Playable

variable {entries : List Entry} {rounds : Rounds}

theorem Playable.exists_record (h : Playable entries rounds) :
    ∀ pairing ∈ pairings entries.length,
      ∃ game, record? entries.toArray rounds pairing = some game := by
  rintro ⟨i, j⟩ hmem
  obtain ⟨hij, hj⟩ := mem_pairings.mp hmem
  have hi : i < entries.length := Nat.lt_trans hij hj
  obtain ⟨sa, ha⟩ := h.compiled entries[i] (List.getElem_mem hi)
  obtain ⟨sb, hb⟩ := h.compiled entries[j] (List.getElem_mem hj)
  obtain ⟨result, hplay⟩ := Game.exists_result (Source.sound_of_compile ha)
    (Source.sound_of_compile hb) h.valid h.room
  refine ⟨_, record?_eq_some_iff.mpr ⟨entries[i], entries[j], result, ?_, ?_,
    hplay, rfl⟩⟩
  · rw [List.getElem?_toArray, List.getElem?_eq_getElem hi]
  · rw [List.getElem?_toArray, List.getElem?_eq_getElem hj]

/-- Where every element has an image, leaving out what has none changes nothing. -/
theorem map_some_filterMap {α β : Type} {f : α → Option β} {l : List α}
    (h : ∀ x ∈ l, ∃ y, f x = some y) : (l.filterMap f).map some = l.map f := by
  induction l with
  | nil => rfl
  | cons x l ih =>
      obtain ⟨⟨y, hy⟩, hl⟩ := List.forall_mem_cons.mp h
      rw [List.filterMap_cons_some hy, List.map_cons, List.map_cons, hy, ih hl]

/-- What a tournament comes to that is played game after game. -/
theorem Playable.play_eq (h : Playable entries rounds) {parallelism : Int}
    (hparallelism : parallelism ≤ Semaphore.maxCapacity) {report : Report}
    (hreport : ∀ n game, report n game = none) :
    play false parallelism entries rounds report =
      ⟨(pairings entries.length).filterMap (record? entries.toArray rounds),
        .ok (sortStandings ((pairings entries.length).foldl
          (State.enter entries.toArray rounds)
          (State.start entries)).standings.toList)⟩ := by
  rw [play, duplicated?_eq_none h.names, Semaphore.new?_max hparallelism]
  refine (playFrom_eq hreport h.exists_record _).trans ?_
  rw [reported_foldl_enter, List.append_nil, List.reverse_reverse]
  rfl

end Playable

end Tournament

end TapeDuel
