import TapeDuel.Failure
import TapeDuel.Proofs.Dialect
import TapeDuel.Proofs.Places

/-!
# What is reported of a wrong source

There are two ways to be wrong. Some closing bracket is at fault: nothing is open,
or a bracket of the other kind is, or it ends a counted loop and has no count. Or
no closing bracket is at fault and some opening bracket is never closed. `AtFault`
and `opened` say this of bytes, for a text that is read from left to right.

The first closing bracket at fault ends the reading, so nothing behind it is
reported and nothing open before it either. If there is none the reader comes to
the end of the text, and what it has on its stack then is what is open there
(`Reading.Reached`). Between two brackets the reader takes whole runes and the
description single bytes; they meet because brackets are ASCII.
-/

namespace TapeDuel

/-! ## Brackets at fault -/

/-- An opening bracket and its offset in a text. -/
structure Opener where
  bracket : Bracket
  offset : Nat
deriving DecidableEq, Repr

theorem Bracket.lt_of_ascii (bracket : Bracket) :
    Text.byte bracket.opener < 0x80 ∧ Text.byte bracket.closer < 0x80 := by
  cases bracket <;> decide

namespace Text

/-- The brackets that are open behind a text, innermost first. So many bytes stood
before the text, and these brackets were open there. A closing bracket closes the
innermost one. -/
def openedFrom : Nat → List Opener → Text → List Opener
  | _, opened, [] => opened
  | offset, opened, b :: rest =>
    if b = byte '[' then openedFrom (offset + 1) (⟨.square, offset⟩ :: opened) rest
    else if b = byte '(' then openedFrom (offset + 1) (⟨.round, offset⟩ :: opened) rest
    else if b = byte ']' ∨ b = byte ')' then openedFrom (offset + 1) opened.tail rest
    else openedFrom (offset + 1) opened rest

/-- The brackets that are open behind a text, innermost first. -/
def opened (t : Text) : List Opener :=
  openedFrom 0 [] t

/-- What is wrong with a closing bracket that stands between two texts. -/
inductive AtFault (before : Text) (bracket : Bracket) (behind : Text) :
    Complaint → Prop where
  | unopened (hopened : before.opened = []) : AtFault before bracket behind .unopened
  | mismatched {top : Opener} {outer : List Opener}
      (hopened : before.opened = top :: outer) (hkind : top.bracket ≠ bracket) :
      AtFault before bracket behind (.mismatched (placeBehind (before.take top.offset)))
  | missingDelimiter {top : Opener} {outer : List Opener}
      (hopened : before.opened = top :: outer) (hkind : top.bracket = bracket)
      (hround : bracket = .round) (hstar : behind.head? ≠ some (byte '*')) :
      AtFault before bracket behind .missingDelimiter
  | badCount {top : Opener} {outer : List Opener}
      (hopened : before.opened = top :: outer) (hkind : top.bracket = bracket)
      (hround : bracket = .round) (hstar : behind.head? = some (byte '*'))
      (hcount : ¬ ∃ n, behind.Counts n) : AtFault before bracket behind .badCount

/-- No closing bracket is at fault among the first bytes of the text. -/
def ClosesWell (t : Text) (length : Nat) : Prop :=
  ∀ before bracket behind complaint, t = before ++ byte bracket.closer :: behind →
    before.length < length → ¬ AtFault before bracket behind complaint

/-- The closing bracket between `before` and `behind` is the first one of the text
that is at fault. -/
structure FirstAtFault (t before : Text) (bracket : Bracket) (behind : Text)
    (complaint : Complaint) : Prop where
  splits : t = before ++ byte bracket.closer :: behind
  fault : AtFault before bracket behind complaint
  first : t.ClosesWell before.length

theorem closesWell_of_no_firstAtFault {t : Text}
    (h : ∀ before bracket behind complaint, ¬ t.FirstAtFault before bracket
      behind complaint) (length : Nat) : t.ClosesWell length := by
  induction length with
  | zero => exact fun _ _ _ _ _ hlt => absurd hlt (Nat.not_lt_zero _)
  | succ length ih =>
      intro before bracket behind complaint hsplits hlt hfault
      rcases Nat.lt_succ_iff_lt_or_eq.mp hlt with hlt | heq
      · exact ih before bracket behind complaint hsplits hlt hfault
      · exact h before bracket behind complaint ⟨hsplits, hfault, heq ▸ ih⟩

theorem closesWell_of_no_closers {t : Text} {length : Nat}
    (h : ∀ bracket : Bracket, byte bracket.closer ∉ t.take length) :
    t.ClosesWell length := by
  rintro before bracket behind complaint rfl hlt
  refine absurd ?_ (h bracket)
  rw [List.mem_take_iff_getElem]
  exact ⟨before.length, by simp [hlt], by simp⟩

/-! ## Open brackets -/

section Opened

variable {t : Text} {b : UInt8}

theorem openedFrom_append (t u : Text) (offset : Nat) (opened : List Opener) :
    openedFrom offset opened (t ++ u) =
      openedFrom (offset + t.length) (openedFrom offset opened t) u := by
  induction t generalizing offset opened with
  | nil => rfl
  | cons b t ih =>
      have hlength : offset + (b :: t).length = offset + 1 + t.length := by
        rw [List.length_cons]
        omega
      rw [List.cons_append, openedFrom, openedFrom, hlength]
      split_ifs <;> exact ih _ _

theorem opened_concat (t : Text) (b : UInt8) :
    (t ++ [b]).opened =
      if b = byte '[' then ⟨.square, t.length⟩ :: t.opened
      else if b = byte '(' then ⟨.round, t.length⟩ :: t.opened
      else if b = byte ']' ∨ b = byte ')' then t.opened.tail
      else t.opened := by
  rw [opened, openedFrom_append, Nat.zero_add]
  rfl

theorem opened_opener (t : Text) (bracket : Bracket) :
    (t ++ [byte bracket.opener]).opened = ⟨bracket, t.length⟩ :: t.opened := by
  rw [opened_concat]
  cases bracket <;> rfl

theorem opened_closer (t : Text) (bracket : Bracket) :
    (t ++ [byte bracket.closer]).opened = t.opened.tail := by
  rw [opened_concat]
  cases bracket <;> rfl

/-- No byte of the text is a bracket. -/
def Bracketless (u : Text) : Prop :=
  ∀ b ∈ u, ∀ bracket : Bracket, b ≠ byte bracket.opener ∧ b ≠ byte bracket.closer

theorem opened_append_of_bracketless {u : Text} (h : u.Bracketless) :
    (t ++ u).opened = t.opened := by
  induction u using List.reverseRecOn with
  | nil => rw [List.append_nil]
  | append_singleton u b ih =>
      rw [Bracketless, List.forall_mem_append, List.forall_mem_singleton] at h
      obtain ⟨hsquare, hsquare'⟩ : b ≠ byte '[' ∧ b ≠ byte ']' := h.2 .square
      obtain ⟨hround, hround'⟩ : b ≠ byte '(' ∧ b ≠ byte ')' := h.2 .round
      rw [← List.append_assoc, opened_concat, if_neg hsquare, if_neg hround,
        if_neg (not_or.mpr ⟨hsquare', hround'⟩), ih h.1]

theorem opened_concat_cases (t : Text) (b : UInt8) :
    (∃ bracket : Bracket, b = byte bracket.opener ∧
      (t ++ [b]).opened = ⟨bracket, t.length⟩ :: t.opened) ∨
    (t ++ [b]).opened = t.opened.tail ∨ (t ++ [b]).opened = t.opened := by
  rw [opened_concat]
  split_ifs with hsquare hround
  · exact .inl ⟨.square, hsquare, rfl⟩
  · exact .inl ⟨.round, hround, rfl⟩
  · exact .inr (.inl rfl)
  · exact .inr (.inr rfl)

/-- Every open bracket is where it is said to be. -/
theorem getElem?_of_mem_opened {o : Opener} (h : o ∈ t.opened) :
    t[o.offset]? = some (byte o.bracket.opener) := by
  induction t using List.reverseRecOn with
  | nil => cases h
  | append_singleton t b ih =>
      have hbefore : o ∈ opened t → (t ++ [b])[o.offset]? =
          some (byte o.bracket.opener) := by
        intro hmem
        have ho := ih hmem
        rwa [List.getElem?_append_left (List.getElem?_eq_some_iff.mp ho).1]
      rcases opened_concat_cases t b with ⟨bracket, rfl, hopened⟩ | hopened | hopened <;>
        rw [hopened] at h
      · rcases List.mem_cons.mp h with rfl | h
        · exact List.getElem?_concat_length
        · exact hbefore h
      · exact hbefore (List.mem_of_mem_tail h)
      · exact hbefore h

theorem offset_lt_of_mem_opened {o : Opener} (h : o ∈ t.opened) : o.offset < t.length :=
  (List.getElem?_eq_some_iff.mp (getElem?_of_mem_opened h)).1

/-- Of two open brackets the inner one stands behind the outer one. -/
theorem pairwise_opened (t : Text) :
    t.opened.Pairwise fun inner outer => outer.offset < inner.offset := by
  induction t using List.reverseRecOn with
  | nil => exact .nil
  | append_singleton t b ih =>
      rcases opened_concat_cases t b with ⟨bracket, -, hopened⟩ | hopened | hopened <;>
        rw [hopened]
      · exact .cons (fun o ho => offset_lt_of_mem_opened ho) ih
      · exact ih.tail
      · exact ih

theorem take_append_of_mem_opened {o : Opener} (h : o ∈ t.opened) (u : Text) :
    (t ++ u).take o.offset = t.take o.offset :=
  List.take_append_of_le_length (Nat.le_of_lt (offset_lt_of_mem_opened h))

/-- The brackets that are open behind a text, with their places. -/
def openPlaces (t : Text) : List (Bracket × Position) :=
  t.opened.map fun o => (o.bracket, placeBehind (t.take o.offset))

theorem openPlaces_opener (t : Text) (bracket : Bracket) :
    (t ++ [byte bracket.opener]).openPlaces =
      (bracket, placeBehind t) :: t.openPlaces := by
  rw [openPlaces, opened_opener, List.map_cons, List.take_left, openPlaces]
  congr 1
  exact List.map_congr_left fun o ho => by rw [take_append_of_mem_opened ho]

theorem openPlaces_closer (t : Text) (bracket : Bracket) :
    (t ++ [byte bracket.closer]).openPlaces = t.openPlaces.tail := by
  rw [openPlaces, opened_closer, openPlaces, ← List.map_tail]
  exact List.map_congr_left fun o ho =>
    by rw [take_append_of_mem_opened (List.mem_of_mem_tail ho)]

theorem openPlaces_append_of_bracketless {u : Text} (h : u.Bracketless) :
    (t ++ u).openPlaces = t.openPlaces := by
  rw [openPlaces, opened_append_of_bracketless h, openPlaces]
  exact List.map_congr_left fun o ho => by rw [take_append_of_mem_opened ho]

end Opened

end Text

/-! ## Reading with a stack -/

namespace Reading

open Text

section Meanings

variable {b : UInt8} {bracket : Bracket}

theorem meaning_eq_opens_iff :
    meaning [b] = .opens bracket ↔ b = byte bracket.opener := by
  constructor
  · intro h
    cases bracket <;> simp only [meaning, List.cons.injEq, and_true] at h <;>
      grind [Bracket.opener]
  · rintro rfl
    cases bracket <;> rfl

theorem meaning_eq_closes_iff :
    meaning [b] = .closes bracket ↔ b = byte bracket.closer := by
  constructor
  · intro h
    cases bracket <;> simp only [meaning, List.cons.injEq, and_true] at h <;>
      grind [Bracket.closer]
  · rintro rfl
    cases bracket <;> rfl

theorem bracketless_of_meaning
    (h : ∀ bracket, meaning [b] ≠ .opens bracket ∧ meaning [b] ≠ .closes bracket) :
    Bracketless [b] := by
  intro c hc bracket
  obtain rfl := List.mem_singleton.mp hc
  exact ⟨fun heq => (h bracket).1 (meaning_eq_opens_iff.mpr heq),
    fun heq => (h bracket).2 (meaning_eq_closes_iff.mpr heq)⟩

end Meanings

/-- The two ways in which a count can be missing. -/
theorem count?_eq_error {rest : List Text} (hrest : ∀ rune ∈ rest, IsRune rune)
    (hcount : ¬ ∃ n, Counts rest.flatten n) :
    count? rest =
      .error (if rest.flatten.head? = some (byte '*') then .badCount
        else .missingDelimiter) := by
  cases rest with
  | nil => rfl
  | cons rune rest =>
      by_cases hstar : rune = [byte '*']
      · have hhead : (rune :: rest).flatten.head? = some (byte '*') := by
          rw [hstar]
          rfl
        rw [if_pos hhead]
        cases hread : count? (rune :: rest) with
        | ok n =>
            exact absurd ⟨n, count?_eq_some_iff.mp ((count?_eq_ok_iff hrest).mp hread)⟩
              hcount
        | error complaint =>
            simp only [count?, hstar, ne_eq, not_true_eq_false, if_false] at hread
            split_ifs at hread <;> exact hread.symm
      · have hhead : (rune :: rest).flatten.head? ≠ some (byte '*') := by
          cases hrest rune List.mem_cons_self with
          | single b => simpa using hstar
          | @wide b tail hwide =>
              intro heq
              obtain rfl : b = byte '*' := Option.some.inj heq
              exact absurd (hwide _ List.mem_cons_self) (by decide)
        rw [if_neg hhead, count?, if_pos hstar]

/-- The reader stands behind a text, and what is open there is on its stack. -/
structure Reached (r : Reading) (before : Text) : Prop where
  position : r.position = placeBehind before
  opened : r.opened.map (fun o => (o.bracket, o.position)) = before.openPlaces

theorem reached_start : start.Reached [] :=
  ⟨rfl, rfl⟩

section Reached

variable {r r' : Reading} {before behind rune : Text} {bracket : Bracket}
  {complaint : Complaint} {pieces rest : List Text}

theorem Reached.exists_top (h : r.Reached before) {top : Opener} {outer : List Opener}
    (hopened : before.opened = top :: outer) :
    ∃ o others, r.opened = o :: others ∧ o.bracket = top.bracket ∧
      o.position = placeBehind (before.take top.offset) := by
  have hstack := h.opened
  rw [openPlaces, hopened] at hstack
  obtain ⟨o, others, hr, ho, -⟩ := List.map_eq_cons_iff.mp hstack
  obtain ⟨hbracket, hposition⟩ := Prod.mk.inj ho
  exact ⟨o, others, hr, hbracket, hposition⟩

/-- The loop that a closing bracket makes of the block before it. -/
def loopOf (rest : List Text) : Bracket → Block → Except Complaint Item
  | .square, body => .ok (.loop body)
  | .round, body => (count? rest).map (.times body)

theorem read_closer (r : Reading) (bracket : Bracket) (rest : List Text) :
    r.read [byte bracket.closer] rest =
      match r.closeBracket bracket (loopOf rest bracket) with
      | .ok r' => .ok { r' with position := r.position.after [byte bracket.closer] }
      | .error complaint => .error (complaint, bracket) := by
  rw [read, meaning_eq_closes_iff.mpr rfl]
  cases bracket <;> rfl

/-- A closing bracket at fault ends the reading, with what is wrong with it. -/
theorem Reached.read_fault (h : r.Reached before) (hrest : ∀ rune ∈ rest, IsRune rune)
    (hfault : AtFault before bracket rest.flatten complaint) :
    r.read [byte bracket.closer] rest = .error (complaint, bracket) := by
  rw [read_closer, closeBracket]
  cases hfault with
  | unopened hopened =>
      have hstack := h.opened
      rw [openPlaces, hopened, List.map_nil, List.map_eq_nil_iff] at hstack
      rw [hstack]
  | mismatched hopened hkind =>
      obtain ⟨o, others, hr, hbracket, hposition⟩ := h.exists_top hopened
      rw [hr]
      simp only [hbracket, ne_eq, hkind, not_false_eq_true, if_true, hposition]
  | missingDelimiter hopened hkind hround hstar =>
      obtain ⟨o, others, hr, hbracket, -⟩ := h.exists_top hopened
      have hcount : ¬ ∃ n, Counts rest.flatten n := by
        rintro ⟨n, run, tail, hrest, -⟩
        exact hstar (by rw [hrest]; rfl)
      subst hround
      rw [hr]
      simp only [hbracket, hkind, ne_eq, not_true_eq_false, if_false, loopOf,
        count?_eq_error hrest hcount, if_neg hstar, Except.map]
  | badCount hopened hkind hround hstar hcount =>
      obtain ⟨o, others, hr, hbracket, -⟩ := h.exists_top hopened
      subst hround
      rw [hr]
      simp only [hbracket, hkind, ne_eq, not_true_eq_false, if_false, loopOf,
        count?_eq_error hrest hcount, if_pos hstar, Except.map]

theorem Reached.exists_read_closer (h : r.Reached before)
    (hrest : ∀ rune ∈ rest, IsRune rune)
    (hfault : ∀ complaint, ¬ AtFault before bracket rest.flatten complaint) :
    ∃ r', r.read [byte bracket.closer] rest = .ok r' ∧ r'.opened = r.opened.tail ∧
      r'.position = r.position.after [byte bracket.closer] := by
  cases hopened : before.opened with
  | nil => exact absurd (.unopened hopened) (hfault _)
  | cons top outer =>
      have hkind : top.bracket = bracket :=
        Decidable.of_not_not fun hne => hfault _ (.mismatched hopened hne)
      obtain ⟨o, others, hr, hbracket, -⟩ := h.exists_top hopened
      obtain ⟨loop, hloop⟩ :
          ∃ loop, loopOf rest bracket (Block.ofItems r.items) = .ok loop := by
        cases bracket with
        | square => exact ⟨_, rfl⟩
        | round =>
            -- Whatever the count lacks would be a fault.
            obtain ⟨n, hcount⟩ : ∃ n, Counts rest.flatten n := by
              refine Classical.byContradiction fun hcount => ?_
              by_cases hstar : rest.flatten.head? = some (byte '*')
              · exact hfault _ (.badCount hopened hkind rfl hstar hcount)
              · exact hfault _ (.missingDelimiter hopened hkind rfl hstar)
            have hread := (count?_eq_ok_iff hrest).mpr (count?_eq_some_iff.mpr hcount)
            exact ⟨_, by rw [loopOf, hread]; rfl⟩
      have hclose := closeBracket_eq_ok_iff.mpr
        ⟨o, others, loop, hr, hbracket.trans hkind, hloop, rfl⟩
      rw [read_closer, hclose, hr]
      exact ⟨_, rfl, rfl, rfl⟩

/-- A rune is read unless it is a closing bracket at fault, and then the reader
stands behind it. -/
theorem Reached.exists_read {piece : Text} (h : r.Reached pieces.flatten)
    (hcut : Cut (pieces ++ piece :: rest))
    (hfault : ∀ bracket complaint, piece = [byte bracket.closer] →
      ¬ AtFault pieces.flatten bracket rest.flatten complaint) :
    ∃ r', r.read piece rest = .ok r' ∧ r'.Reached (pieces ++ [piece]).flatten := by
  have hflatten : (pieces ++ [piece]).flatten = pieces.flatten ++ piece := by simp
  have hplace : r.position.after piece = placeBehind (pieces ++ [piece]).flatten := by
    rw [← List.singleton_append, ← List.append_assoc] at hcut
    rw [h.position, hcut.of_front.placeBehind_concat]
  have hrest : ∀ rune ∈ rest, IsRune rune :=
    fun rune hmem => hcut.isRune rune (by simp [hmem])
  rw [hflatten] at hplace ⊢
  cases hcut.isRune piece (by simp) with
  | @wide b tail hwide =>
      have hcomment : meaning (b :: tail) = .comment :=
        meaning_wide (hwide b List.mem_cons_self)
      refine ⟨_, by rw [read, hcomment], hplace, ?_⟩
      rw [openPlaces_append_of_bracketless, ← h.opened]
      -- Every byte of a wide rune is beyond ASCII, and the brackets are not.
      intro c hc bracket
      obtain ⟨hopener, hcloser⟩ := bracket.lt_of_ascii
      refine ⟨?_, ?_⟩ <;> rintro rfl
      · exact UInt8.not_lt.mpr (hwide _ hc) hopener
      · exact UInt8.not_lt.mpr (hwide _ hc) hcloser
  | single b =>
      cases hm : meaning [b] with
      | comment =>
          refine ⟨_, by rw [read, hm], hplace, ?_⟩
          rw [openPlaces_append_of_bracketless, ← h.opened]
          exact bracketless_of_meaning fun bracket => by simp [hm]
      | act action =>
          refine ⟨_, by rw [read, hm], hplace, ?_⟩
          rw [openPlaces_append_of_bracketless, ← h.opened]
          · rfl
          · exact bracketless_of_meaning fun bracket => by simp [hm]
      | opens bracket =>
          obtain rfl := meaning_eq_opens_iff.mp hm
          refine ⟨_, by rw [read, hm], hplace, ?_⟩
          rw [openPlaces_opener, ← h.opened, ← h.position]
          rfl
      | closes bracket =>
          obtain rfl := meaning_eq_closes_iff.mp hm
          obtain ⟨r', hread, hopened, hposition⟩ :=
            h.exists_read_closer hrest fun complaint => hfault bracket complaint rfl
          refine ⟨r', hread, hposition.trans hplace, ?_⟩
          rw [openPlaces_closer, ← h.opened, hopened, List.map_tail]

end Reached

end Reading

/-! ## The whole source -/

namespace Source

open Text

variable {s : Source}

theorem exists_reached (s : Source) (front pieces behind : List Text) {r : Reading}
    (h : r.Reached front.flatten) (hcut : Cut (front ++ pieces ++ behind))
    (hclose : ClosesWell (front ++ pieces ++ behind).flatten
      (front ++ pieces).flatten.length) :
    ∃ r', s.parseFrom (pieces ++ behind) r = s.parseFrom behind r' ∧
      r'.Reached (front ++ pieces).flatten := by
  -- The pieces move one by one from what is still to be read to what has been read.
  induction pieces generalizing front r with
  | nil => exact ⟨r, rfl, by rwa [List.append_nil]⟩
  | cons piece pieces ih =>
      have hfront : front ++ piece :: pieces = front ++ [piece] ++ pieces := by simp
      obtain ⟨r₁, hread, hr₁⟩ : ∃ r', r.read piece (pieces ++ behind) = .ok r' ∧
          r'.Reached (front ++ [piece]).flatten := by
        refine h.exists_read (by simpa using hcut) ?_
        rintro bracket complaint rfl
        refine hclose front.flatten bracket _ complaint (by simp) (by simp)
      rw [hfront] at hcut hclose ⊢
      obtain ⟨r', hparse, hr'⟩ := ih _ hr₁ hcut hclose
      refine ⟨r', ?_, hr'⟩
      rw [List.cons_append, parseFrom, hread]
      exact hparse

theorem compile_of_firstAtFault {before behind : Text} {bracket : Bracket}
    {complaint : Complaint} (h : s.text.FirstAtFault before bracket behind complaint) :
    s.compile = .error [s.diagnostic complaint bracket (placeBehind before)] := by
  have hcut := cut_runes s.text
  have hflatten := flatten_runes s.text
  obtain ⟨front, rest, hrunes, rfl, rfl⟩ :=
    exists_cut_of_ascii hcut.isRune bracket.lt_of_ascii.2 (hflatten.trans h.splits)
  rw [hrunes] at hcut hflatten
  obtain ⟨r, hparse, hr⟩ := s.exists_reached [] front _ Reading.reached_start hcut
    (by rw [List.nil_append, hflatten]; exact h.first)
  have hfault :=
    hr.read_fault (fun rune hmem => hcut.isRune rune (by simp [hmem])) h.fault
  rw [compile, parse, hrunes, hparse, parseFrom, hfault]
  dsimp only
  rw [hr.position]
  rfl

theorem compile_of_closesWell (h : s.text.ClosesWell s.text.length) :
    (s.text.opened = [] → ∃ p, s.compile = .ok p) ∧
      (s.text.opened ≠ [] → s.compile = .error (s.text.opened.map fun o =>
        s.diagnostic .unclosed o.bracket (placeBehind (s.text.take o.offset)))) := by
  obtain ⟨r, hparse, hr⟩ := s.exists_reached [] s.text.runes [] Reading.reached_start
    (by simpa using cut_runes s.text)
    (by simpa [flatten_runes] using h)
  rw [List.append_nil, parseFrom] at hparse
  rw [List.nil_append, flatten_runes] at hr
  rw [compile, parse, hparse]
  cases hopened : r.opened with
  | nil =>
      have hnone : s.text.opened = [] := by
        have hplaces := hr.opened
        rw [hopened] at hplaces
        exact List.map_eq_nil_iff.mp hplaces.symm
      exact ⟨fun _ => ⟨_, rfl⟩, fun hsome => absurd hnone hsome⟩
  | cons o others =>
      have hreport :
          (o :: others).map (fun o => s.diagnostic .unclosed o.bracket o.position) =
          s.text.opened.map fun o =>
            s.diagnostic .unclosed o.bracket (placeBehind (s.text.take o.offset)) := by
        have hplaces := congrArg
          (List.map fun place => s.diagnostic .unclosed place.1 place.2) hr.opened
        rw [hopened, openPlaces, List.map_map, List.map_map] at hplaces
        exact hplaces
      refine ⟨fun hnone => ?_, fun _ => congrArg Except.error hreport⟩
      rw [hnone] at hreport
      cases hreport

end Source

theorem Failure.diagnosticsOf_map_diagnostic (ds : List Diagnostic) :
    diagnosticsOf (ds.map diagnostic) = ds := by
  induction ds with
  | nil => rfl
  | cons d rest ih => exact congrArg (d :: ·) ih

/-- Whatever a source reports can be asked of its failure, in the same order. -/
theorem Failure.diagnostics_ofDiagnostics (ds : List Diagnostic) :
    (Failure.ofDiagnostics ds).diagnostics = ds := by
  match ds with
  | [_] => rfl
  | [] | _ :: _ :: _ => exact diagnosticsOf_map_diagnostic _

/-- What is reported of a source. If some closing bracket of it is at fault, that is
the first one, with its kind and its place, and nothing else. If none is, it is the
brackets that are open at the end, innermost first, each with its kind and its place;
and a source without either compiles. The failure of the source has just these
diagnostics. -/
theorem Source.compile_reports_brackets (s : Source) :
    (∀ before bracket behind complaint,
      s.text.FirstAtFault before bracket behind complaint →
      s.compile = .error [s.diagnostic complaint bracket (Text.placeBehind before)]) ∧
    ((∀ before bracket behind complaint,
      ¬ s.text.FirstAtFault before bracket behind complaint) →
      (s.text.opened = [] → ∃ p, s.compile = .ok p) ∧
      (s.text.opened ≠ [] → s.compile = .error (s.text.opened.map fun o =>
        s.diagnostic .unclosed o.bracket (Text.placeBehind (s.text.take o.offset))))) ∧
    (∀ o ∈ s.text.opened, s.text[o.offset]? = some (Text.byte o.bracket.opener)) ∧
    (s.text.opened.Pairwise fun inner outer => outer.offset < inner.offset) ∧
    ∀ ds, s.compile = .error ds → (Failure.ofDiagnostics ds).diagnostics = ds := by
  refine ⟨fun before bracket behind complaint h => compile_of_firstAtFault h,
    fun h => compile_of_closesWell (Text.closesWell_of_no_firstAtFault h _),
    fun o ho => Text.getElem?_of_mem_opened ho, Text.pairwise_opened _,
    fun ds _ => Failure.diagnostics_ofDiagnostics ds⟩

/-- The first bracket at fault hides the second one. A rune of two bytes, a newline
and a tab stand before it, so its offset is not its column. -/
theorem Source.compile_reports_brackets_mismatched :
    Source.compile ⟨"duel", 0xC3 :: 0xA9 :: ("\n\t(]x)" : Text)⟩ =
      .error [⟨.mismatched ⟨4, 2, 2⟩, some .square, ⟨5, 2, 3⟩,
        some ⟨"duel", 0xC3 :: 0xA9 :: ("\n\t(]x)" : Text)⟩⟩] := by
  have hsplits : 0xC3 :: 0xA9 :: ("\n\t(]x)" : Text) =
      (0xC3 :: 0xA9 :: ("\n\t(" : Text)) ++ Text.byte ']' :: ("x)" : Text) := by cbv
  have hopened : Text.opened (0xC3 :: 0xA9 :: ("\n\t(" : Text)) = [⟨.round, 4⟩] := by cbv
  have hlength : List.length (0xC3 :: 0xA9 :: ("\n\t(" : Text)) = 5 := by cbv
  have hfirst : Text.ClosesWell (0xC3 :: 0xA9 :: ("\n\t(]x)" : Text)) 5 :=
    Text.closesWell_of_no_closers fun bracket => by cases bracket <;> decide +kernel
  have hreport := (compile_reports_brackets
    ⟨"duel", 0xC3 :: 0xA9 :: ("\n\t(]x)" : Text)⟩).1 _ .square _ _
      ⟨hsplits, .mismatched hopened (by decide), hlength ▸ hfirst⟩
  exact hreport.trans (by cbv)

example :
    Source.compile ⟨"duel", ("[\n(+" : Text)⟩ =
      .error [⟨.unclosed, some .round, ⟨2, 2, 1⟩, some ⟨"duel", ("[\n(+" : Text)⟩⟩,
        ⟨.unclosed, some .square, ⟨0, 1, 1⟩, some ⟨"duel", ("[\n(+" : Text)⟩⟩] := by
  cbv

end TapeDuel
