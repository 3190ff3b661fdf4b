import TapeDuel.Proofs.WrongBrackets

/-!
# Where carets stand

A diagnostic has two views of its place. The reader counted its way through the whole
source, rune by rune. The message cuts the source at its newlines, takes one line, and
cuts this line into runes as if nothing stood before it.

Both views have the bracket in the same column because it is ASCII, and so are the
newlines. What stands before an ASCII byte is cut into runes as it would be alone
(`runes_append_cons`), so the runes of the line up to the bracket are those that the
reader counted; and the line that the message takes begins behind the last newline
before the bracket (`getElem?_lines`). A broken sequence on either side of the bracket
is as wide in the one view as in the other.
-/

namespace TapeDuel

namespace Text

/-! ## Lines -/

section Lines

variable {sep b : UInt8}

theorem splitOn_eq_cons (sep : UInt8) (t : Text) :
    splitOn sep t = (t.takeWhile fun b => b ≠ sep) :: (splitOn sep t).tail := by
  induction t with
  | nil => rfl
  | cons b rest ih =>
      rw [splitOn]
      by_cases hsep : b = sep
      · simp [hsep]
      · rw [if_neg hsep, ih]
        simp [hsep]

theorem tail_splitOn_cons (h : b ≠ sep) (rest : Text) :
    (splitOn sep (b :: rest)).tail = (splitOn sep rest).tail := by
  rw [splitOn, if_neg h, splitOn_eq_cons sep rest]
  rfl

/-- As many pieces as there are separators end before the cut, and the next one goes
across it. -/
theorem drop_splitOn_append (sep : UInt8) (t u : Text) :
    (splitOn sep (t ++ u)).drop (t.count sep) =
      ((t.rtakeWhile fun b => b ≠ sep) ++ u.takeWhile fun b => b ≠ sep) ::
        (splitOn sep u).tail := by
  -- The cut moves to the left, byte by byte.
  induction t using List.reverseRecOn generalizing u with
  | nil => exact splitOn_eq_cons sep u
  | append_singleton t b ih =>
      have hcut := ih (b :: u)
      rw [List.append_assoc, List.singleton_append, List.count_append,
        List.rtakeWhile_concat]
      by_cases hsep : b = sep
      · subst hsep
        rw [List.count_singleton_self, List.drop_add_one_eq_tail_drop, hcut]
        simpa [splitOn] using splitOn_eq_cons b u
      · have hcount : [b].count sep = 0 := by simp [hsep]
        rw [hcount, Nat.add_zero, hcut, tail_splitOn_cons hsep]
        simp [hsep]

/-- The line of a byte between two texts: what stands behind the last newline before
it, the byte, and what stands before the next newline. -/
def lineOf (before : Text) (b : UInt8) (behind : Text) : Text :=
  before.lastLine ++ b :: behind.takeWhile fun c => c ≠ byte '\n'

theorem getElem?_lines (h : b ≠ byte '\n') (before behind : Text) :
    (lines (before ++ b :: behind))[before.count (byte '\n')]? =
      some (lineOf before b behind) := by
  have hdrop := drop_splitOn_append (byte '\n') before (b :: behind)
  have hhead := congrArg List.head? hdrop
  rw [List.head?_drop, List.head?_cons, List.takeWhile_cons,
    if_pos (decide_eq_true h)] at hhead
  exact hhead

end Lines

/-- An ASCII byte is a rune of its own, and what is on its two sides is cut into runes
apart. -/
theorem runes_append_cons {b : UInt8} (hb : b < 0x80) (before behind : Text) :
    runes (before ++ b :: behind) = runes before ++ [b] :: runes behind := by
  have hcut := cut_runes (before ++ b :: behind)
  obtain ⟨front, rest, hrunes, rfl, rfl⟩ :=
    exists_cut_of_ascii hcut.isRune hb (flatten_runes _)
  rw [hrunes] at hcut ⊢
  have hfront : runes front.flatten = front := hcut.of_front
  rw [← List.singleton_append, ← List.append_assoc] at hcut
  have hrest : runes rest.flatten = rest := hcut.of_behind
  rw [hfront, hrest]

end Text

/-! ## The bracket of a diagnostic -/

/-- The bracket that a complaint points at: the closing one of its kind, unless it is an
opening one that is never closed. -/
def Complaint.glyph (complaint : Complaint) (bracket : Bracket) : UInt8 :=
  match complaint with
  | .unclosed => Text.byte bracket.opener
  | _ => Text.byte bracket.closer

theorem Complaint.glyph_cases (complaint : Complaint) (bracket : Bracket) :
    complaint.glyph bracket = Text.byte bracket.opener ∨
      complaint.glyph bracket = Text.byte bracket.closer := by
  cases complaint with
  | unclosed => exact .inl rfl
  | _ => exact .inr rfl

theorem Complaint.glyph_lt (complaint : Complaint) (bracket : Bracket) :
    complaint.glyph bracket < 0x80 ∧ complaint.glyph bracket ≠ Text.byte '\n' := by
  rcases complaint.glyph_cases bracket with h | h <;> rw [h] <;> cases bracket <;> decide

theorem Bracket.eq_other {bracket bracket' : Bracket} (h : bracket ≠ bracket') :
    bracket = bracket'.other := by
  cases bracket <;> cases bracket' <;> first | rfl | exact absurd rfl h

namespace Diagnostic

/-- The diagnostic is about a bracket between two texts that make up its source, and
its position is the place of that bracket. If the bracket meets one of the other kind,
the place of that one is given too. -/
structure PointsAt (d : Diagnostic) (s : Source) (bracket : Bracket)
    (before behind : Text) : Prop where
  source : d.source = some s
  kind : d.bracket = some bracket
  splits : s.text = before ++ d.complaint.glyph bracket :: behind
  position : d.position = Text.placeBehind before
  openedAt : ∀ place, d.complaint = .mismatched place →
    ∃ earlier between, before = earlier ++ Text.byte bracket.other.opener :: between ∧
      place = Text.placeBehind earlier

/-- The message is a header, the line that the position names, and below it a caret.
So many bytes stand before the caret as there are runes before the column, a tab under
each tab and a space under everything else; the rune above the caret is the bracket. -/
structure Shows (d : Diagnostic) (s : Source) (bracket : Bracket) (line indent : Text) :
    Prop where
  shown : s.text.lines[(d.position.line - 1).toNat]? = some line
  message : d.message = Text.ofString d.header ++ [Text.byte '\n'] ++ line ++
    [Text.byte '\n'] ++ (indent ++ [Text.byte '^'])
  column : (indent.length : Int) = d.position.column - 1
  blank : ∀ k < indent.length, indent[k]? =
    some (if line.runes[k]? = some [Text.byte '\t'] then Text.byte '\t'
      else Text.byte ' ')
  caret : line.runes[indent.length]? = some [d.complaint.glyph bracket]

section PointsAt

variable {d : Diagnostic} {s : Source} {bracket : Bracket} {before behind : Text}

theorem PointsAt.getElem?_offset (h : d.PointsAt s bracket before behind) :
    s.text[d.position.offset.toNat]? = some (d.complaint.glyph bracket) := by
  have hoffset : d.position.offset.toNat = before.length := by
    rw [h.position]
    rfl
  rw [h.splits, hoffset, List.getElem?_append_right (Nat.le_refl _), Nat.sub_self]
  rfl

theorem PointsAt.line_eq (h : d.PointsAt s bracket before behind) :
    d.position.line = 1 + (before.count (Text.byte '\n') : Int) := by
  rw [h.position]
  rfl

theorem PointsAt.column_eq (h : d.PointsAt s bracket before behind) :
    d.position.column = 1 + (before.lastLine.runes.length : Int) := by
  rw [h.position]
  rfl

theorem PointsAt.shows (h : d.PointsAt s bracket before behind) :
    d.Shows s bracket (Text.lineOf before (d.complaint.glyph bracket) behind)
      (indentation before.lastLine.runes) := by
  obtain ⟨hascii, hline⟩ := d.complaint.glyph_lt bracket
  have hlineNumber : (d.position.line - 1).toNat = before.count (Text.byte '\n') := by
    rw [h.line_eq]
    omega
  have hcolumn : (d.position.column - 1).toNat = before.lastLine.runes.length := by
    rw [h.column_eq]
    omega
  have hget := Text.getElem?_lines hline before behind
  rw [← h.splits, ← hlineNumber] at hget
  have hrunes : (Text.lineOf before (d.complaint.glyph bracket) behind).runes = _ :=
    Text.runes_append_cons hascii before.lastLine _
  have hlength : (indentation before.lastLine.runes).length =
      before.lastLine.runes.length :=
    List.length_map _
  refine ⟨hget, ?_, ?_, ?_, ?_⟩
  · have hpos : 1 ≤ d.position.line := by
      rw [h.line_eq]
      omega
    have hshown : d.sourceLine? =
        some (Text.lineOf before (d.complaint.glyph bracket) behind) := by
      rw [sourceLine?, h.source]
      exact (if_pos hpos).trans hget
    rw [message, hshown]
    dsimp only
    rw [caretLine, hcolumn, hrunes, List.take_left]
  · rw [hlength, h.column_eq]
    omega
  · intro k hk
    rw [hlength] at hk
    rw [hrunes, List.getElem?_append_left hk, indentation, List.getElem?_map,
      List.getElem?_eq_getElem hk]
    simp
  · rw [hlength, hrunes, List.getElem?_append_right (Nat.le_refl _), Nat.sub_self]
    rfl

end PointsAt

end Diagnostic

namespace Source

open Text

variable {s : Source}

theorem eq_take_append_of_getElem? {t : Text} {k : Nat} {b : UInt8}
    (h : t[k]? = some b) : t = t.take k ++ b :: t.drop (k + 1) := by
  obtain ⟨hk, rfl⟩ := List.getElem?_eq_some_iff.mp h
  rw [List.getElem_cons_drop, List.take_append_drop]

theorem pointsAt_of_firstAtFault {before behind : Text} {bracket : Bracket}
    {complaint : Complaint} (h : s.text.FirstAtFault before bracket behind complaint) :
    (s.diagnostic complaint bracket (placeBehind before)).PointsAt s bracket before
      behind := by
  refine ⟨rfl, rfl, ?_, rfl, ?_⟩
  · refine h.splits.trans ?_
    cases h.fault <;> rfl
  · rintro place hplace
    obtain rfl : complaint = .mismatched place := hplace
    cases h.fault with
    | @mismatched top outer hopened hkind =>
        have hmem : top ∈ before.opened := hopened ▸ List.mem_cons_self
        have hsplit := eq_take_append_of_getElem? (getElem?_of_mem_opened hmem)
        rw [Bracket.eq_other hkind] at hsplit
        exact ⟨_, _, hsplit, rfl⟩

theorem pointsAt_of_mem_opened {o : Opener} (h : o ∈ s.text.opened) :
    (s.diagnostic .unclosed o.bracket (placeBehind (s.text.take o.offset))).PointsAt s
      o.bracket (s.text.take o.offset) (s.text.drop (o.offset + 1)) where
  source := rfl
  kind := rfl
  splits := eq_take_append_of_getElem? (getElem?_of_mem_opened h)
  position := rfl
  openedAt := nofun

/-- Whatever is reported of a source points at a bracket of it. -/
theorem exists_pointsAt {ds : List Diagnostic} (h : s.compile = .error ds)
    {d : Diagnostic} (hd : d ∈ ds) :
    ∃ bracket before behind, d.PointsAt s bracket before behind := by
  by_cases hfault : ∃ before bracket behind complaint,
      s.text.FirstAtFault before bracket behind complaint
  · obtain ⟨before, bracket, behind, complaint, hfirst⟩ := hfault
    rw [compile_of_firstAtFault hfirst] at h
    cases h
    obtain rfl := List.mem_singleton.mp hd
    exact ⟨_, _, _, pointsAt_of_firstAtFault hfirst⟩
  · have hnone : ∀ before bracket behind complaint,
        ¬ s.text.FirstAtFault before bracket behind complaint := by
      intro before bracket behind complaint hfirst
      exact hfault ⟨_, _, _, _, hfirst⟩
    obtain ⟨hclosed, hopen⟩ :=
      compile_of_closesWell (closesWell_of_no_firstAtFault hnone _)
    by_cases hempty : s.text.opened = []
    · obtain ⟨p, hp⟩ := hclosed hempty
      rw [hp] at h
      cases h
    · rw [hopen hempty] at h
      cases h
      obtain ⟨o, ho, rfl⟩ := List.mem_map.mp hd
      exact ⟨_, _, _, pointsAt_of_mem_opened ho⟩

end Source

/-- Every diagnostic of a source gives the offset, the line and the column of a bracket
of its kind: of the opening one if it is never closed, else of the closing one, and
then also the place of an opening bracket of the other kind before it, if that is what
is wrong. Its message shows the line with the bracket and has a caret under it. -/
theorem Source.carets_stand_under_brackets {s : Source} {ds : List Diagnostic}
    (h : s.compile = .error ds) {d : Diagnostic} (hd : d ∈ ds) :
    ∃ bracket before behind indent, d.PointsAt s bracket before behind ∧
      s.text[d.position.offset.toNat]? = some (d.complaint.glyph bracket) ∧
      d.Shows s bracket
        (Text.lineOf before (d.complaint.glyph bracket) behind) indent := by
  obtain ⟨bracket, before, behind, hpoints⟩ := exists_pointsAt h hd
  exact ⟨bracket, before, behind, _, hpoints, hpoints.getElem?_offset, hpoints.shows⟩

/-- The theorem at a bracket behind a tab and a broken rune, on the line after that of
the opening bracket which it meets. -/
theorem Source.carets_stand_under_brackets_broken_rune :
    ∃ (s : Source) (d : Diagnostic),
      s = ⟨"duel", ("(\n\t" : Text) ++ 0xE2 :: ("]é" : Text)⟩ ∧
      d = s.diagnostic (.mismatched ⟨0, 1, 1⟩) .square ⟨4, 2, 3⟩ ∧
      s.compile = .error [d] ∧
      ∃ bracket before behind indent, d.PointsAt s bracket before behind ∧
        s.text[(4 : Int).toNat]? = some (d.complaint.glyph bracket) ∧
        d.Shows s bracket (Text.lineOf before (d.complaint.glyph bracket) behind)
          indent := by
  have hcompile : Source.compile ⟨"duel", ("(\n\t" : Text) ++ 0xE2 :: ("]é" : Text)⟩ =
      .error [Source.diagnostic ⟨"duel", ("(\n\t" : Text) ++ 0xE2 :: ("]é" : Text)⟩
        (.mismatched ⟨0, 1, 1⟩) .square ⟨4, 2, 3⟩] := by cbv
  exact ⟨_, _, rfl, rfl, hcompile,
    carets_stand_under_brackets hcompile (List.mem_singleton.mpr rfl)⟩

example :
    (Source.diagnostic ⟨"duel", ("(\n\t" : Text) ++ 0xE2 :: ("]é" : Text)⟩
      (.mismatched ⟨0, 1, 1⟩) .square ⟨4, 2, 3⟩).message =
    ("mismatched bracket kind: ']' closes '(' opened at 1:1 at duel:2:3\n\t" : Text) ++
      0xE2 :: ("]é\n\t ^" : Text) := by
  cbv

end TapeDuel
