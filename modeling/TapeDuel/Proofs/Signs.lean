import TapeDuel.Proofs.Brackets
import TapeDuel.Source.Compile

/-!
# What a source says, byte by byte

A source is read rune by rune into a tree. Here the same reading is done byte by
byte into a list: `Text.signs?` gives the operations that the bytes of a text
stand for, in order, each with its number of iterations, and nothing if a round
bracket is closed without a count. All that is known about runes goes into
`Text.isRune_of_mem`: a rune is a single byte, or it has no ASCII byte at all.

The tree comes in as `Block.signs`, its operations from left to right. A source
that is read to a tree says what the tree says (`signs?_of_parse`), and it is
read to a tree if its operations close all brackets (`exists_parse`). Both follow
the reading with its stack of open brackets, the first by what was read before,
the second by what is still to come.
-/

namespace TapeDuel

/-! ## Signs -/

/-- The operation that a byte of a source stands for. -/
def Op.ofByte? (b : UInt8) : Option Op :=
  if b = Text.byte '<' then some .moveBack
  else if b = Text.byte '>' then some .moveForward
  else if b = Text.byte '+' then some .increment
  else if b = Text.byte '-' then some .decrement
  else if b = Text.byte '.' then some .rest
  else if b = Text.byte '[' then some .whileStart
  else if b = Text.byte '(' then some .repeatStart
  else if b = Text.byte ']' then some .whileEnd
  else if b = Text.byte ')' then some .repeatEnd
  else none

theorem Op.eq_of_ofByte?_repeatEnd {b : UInt8}
    (h : Op.ofByte? b = some .repeatEnd) : b = Text.byte ')' := by
  simp only [Op.ofByte?] at h
  grind

/-- What a source says of an instruction: all but the place of the partner. -/
structure Sign where
  op : Op
  iterations : Int
deriving DecidableEq, Repr

namespace Text

/-- The count right behind a closing round bracket: a star, and behind it the
whole run of digits. -/
def count? : Text → Option Nat
  | [] => none
  | b :: tail =>
    if b = byte '*' ∧ tail.takeWhile Decimal.isDigit ≠ [] ∧
        Decimal.read (tail.takeWhile Decimal.isDigit) ≤ Reading.maxCount then
      some (Decimal.read (tail.takeWhile Decimal.isDigit))
    else none

/-- The signs of a text, unless a count is missing. -/
def signs? : Text → Option (List Sign)
  | [] => some []
  | b :: rest =>
    match Op.ofByte? b with
    | none => signs? rest
    | some .repeatEnd =>
      match count? rest with
      | none => none
      | some count => (signs? rest).map (⟨.repeatEnd, count⟩ :: ·)
    | some op => (signs? rest).map (⟨op, 0⟩ :: ·)

section Signs

variable {b : UInt8} {op : Op} {rest : Text}

theorem signs?_comment (h : Op.ofByte? b = none) :
    signs? (b :: rest) = signs? rest := by
  rw [signs?, h]

theorem signs?_plain (h : Op.ofByte? b = some op) (hop : op ≠ .repeatEnd) :
    signs? (b :: rest) = (signs? rest).map (⟨op, 0⟩ :: ·) := by
  rw [signs?, h]
  cases op with
  | repeatEnd => exact absurd rfl hop
  | _ => rfl

theorem signs?_repeatEnd (h : Op.ofByte? b = some .repeatEnd) :
    signs? (b :: rest) =
      (count? rest).bind fun count =>
        (signs? rest).map (⟨.repeatEnd, count⟩ :: ·) := by
  rw [signs?, h]
  cases count? rest <;> rfl

/-- The signs of a text behind its first byte are those behind its sign. -/
theorem signs?_cons {ws : List Sign} (h : signs? (b :: rest) = some ws) :
    (Op.ofByte? b = none ∧ signs? rest = some ws) ∨
      ∃ op iterations tail, Op.ofByte? b = some op ∧
        signs? rest = some tail ∧ ws = ⟨op, iterations⟩ :: tail ∧
        if op = .repeatEnd then ∃ n, count? rest = some n ∧ iterations = n
        else iterations = 0 := by
  cases hop : Op.ofByte? b with
  | none =>
      rw [signs?_comment hop] at h
      exact .inl ⟨rfl, h⟩
  | some op =>
      refine .inr ?_
      by_cases hend : op = .repeatEnd
      · subst hend
        rw [signs?_repeatEnd hop] at h
        obtain ⟨n, hcount, h⟩ := Option.bind_eq_some_iff.mp h
        obtain ⟨tail, htail, rfl⟩ := Option.map_eq_some_iff.mp h
        exact ⟨_, _, tail, rfl, htail, rfl, by rw [if_pos rfl]; exact ⟨n, hcount, rfl⟩⟩
      · rw [signs?_plain hop hend] at h
        obtain ⟨tail, htail, rfl⟩ := Option.map_eq_some_iff.mp h
        exact ⟨_, _, tail, rfl, htail, rfl, by rw [if_neg hend]⟩

theorem ops_of_signs? {t : Text} {ws : List Sign} (h : signs? t = some ws) :
    ws.map Sign.op = t.filterMap Op.ofByte? := by
  induction t generalizing ws with
  | nil =>
      cases h
      rfl
  | cons b rest ih =>
      rcases signs?_cons h with ⟨hop, hrest⟩ | ⟨op, n, tail, hop, hrest, rfl, -⟩
      · rw [List.filterMap_cons_none hop, ih hrest]
      · rw [List.filterMap_cons_some hop, List.map_cons, ih hrest]

/-- The sign of a byte, with the count that stands behind the byte. -/
theorem getElem?_of_signs? {before behind : Text} {ws : List Sign}
    (h : signs? (before ++ b :: behind) = some ws)
    (hop : Op.ofByte? b = some op) :
    ∃ iterations, ws[(before.filterMap Op.ofByte?).length]? = some ⟨op, iterations⟩ ∧
      if op = .repeatEnd then ∃ n, count? behind = some n ∧ iterations = n
      else iterations = 0 := by
  induction before generalizing ws with
  | nil =>
      rcases signs?_cons h with ⟨hnone, -⟩ | ⟨op', n, tail, hop', -, rfl, hn⟩
      · rw [hop] at hnone
        cases hnone
      · rw [hop] at hop'
        cases hop'
        exact ⟨n, rfl, hn⟩
  | cons b' before ih =>
      rcases signs?_cons h with ⟨hnone, hrest⟩ |
        ⟨op', n, tail, hop', hrest, rfl, -⟩
      · obtain ⟨iterations, hget, hn⟩ := ih hrest
        rw [List.filterMap_cons_none hnone]
        exact ⟨iterations, hget, hn⟩
      · obtain ⟨iterations, hget, hn⟩ := ih hrest
        rw [List.filterMap_cons_some hop']
        exact ⟨iterations, hget, hn⟩

/-- A text has signs exactly if a count follows each round bracket that is
closed. -/
theorem exists_signs?_iff {t : Text} :
    (∃ ws, signs? t = some ws) ↔
      ∀ before behind, t = before ++ byte ')' :: behind →
        ∃ n, count? behind = some n := by
  constructor
  · rintro ⟨ws, h⟩ before behind rfl
    obtain ⟨iterations, -, hn⟩ := getElem?_of_signs? h
      (show Op.ofByte? (byte ')') = some .repeatEnd from rfl)
    rw [if_pos rfl] at hn
    obtain ⟨n, hn, -⟩ := hn
    exact ⟨n, hn⟩
  · intro h
    induction t with
    | nil => exact ⟨[], rfl⟩
    | cons b rest ih =>
        obtain ⟨ws, hws⟩ := ih fun before behind hrest =>
          h (b :: before) behind (by rw [hrest, List.cons_append])
        cases hop : Op.ofByte? b with
        | none => exact ⟨ws, by rw [signs?_comment hop, hws]⟩
        | some op =>
            by_cases hend : op = .repeatEnd
            · subst hend
              obtain rfl := Op.eq_of_ofByte?_repeatEnd hop
              obtain ⟨n, hn⟩ := h [] rest rfl
              exact ⟨_, by rw [signs?_repeatEnd hop, hn, hws]; rfl⟩
            · exact ⟨_, by rw [signs?_plain hop hend, hws]; rfl⟩

end Signs

/-! ## Runes -/

/-- A rune is a single byte, or a sequence without an ASCII byte. -/
inductive IsRune : Text → Prop where
  | single (b : UInt8) : IsRune [b]
  | wide {b : UInt8} {rest : Text} (h : ∀ c ∈ b :: rest, 0x80 ≤ c) :
      IsRune (b :: rest)

theorem le_of_mayFollow {lead b : UInt8} (h : mayFollow lead b = true) :
    0x80 ≤ b := by
  simp only [mayFollow, Bool.and_eq_true, decide_eq_true_eq] at h
  have hlow : 0x80 ≤ (secondRange lead).1 := by
    unfold secondRange
    repeat' split
    all_goals decide
  exact UInt8.le_trans hlow h.1

/-- A leading byte and the bytes that belong to it. -/
theorem isRune_take (lead : UInt8) (rest : Text) :
    IsRune (lead :: rest.take (runeWidth lead rest - 1)) := by
  have hcont : ∀ {c : UInt8}, isContinuation c = true → 0x80 ≤ c := by
    intro c hc
    simp only [isContinuation, Bool.and_eq_true, decide_eq_true_eq] at hc
    exact hc.1
  have hlead : ∀ {lo : UInt8}, lo ≤ lead → 0x80 ≤ lo → 0x80 ≤ lead :=
    fun h h' => UInt8.le_trans h' h
  have hsingle : IsRune (lead :: rest.take (1 - 1)) := .single lead
  unfold runeWidth
  split
  · next h =>
      simp only [Bool.and_eq_true, decide_eq_true_eq] at h
      split
      · split
        · next hb =>
              exact .wide (by simpa using ⟨hlead h.1 (by decide), le_of_mayFollow hb⟩)
        · exact hsingle
      · exact hsingle
  · split
    · next h =>
        simp only [Bool.and_eq_true, decide_eq_true_eq] at h
        split
        · split
          · next hb =>
              rw [Bool.and_eq_true] at hb
              exact .wide (by
                simpa using ⟨hlead h.1 (by decide), le_of_mayFollow hb.1, hcont hb.2⟩)
          · exact hsingle
        · exact hsingle
    · split
      · next h =>
          simp only [Bool.and_eq_true, decide_eq_true_eq] at h
          split
          · split
            · next hb =>
                rw [Bool.and_eq_true, Bool.and_eq_true] at hb
                exact .wide (by
                  simpa using ⟨hlead h.1 (by decide), le_of_mayFollow hb.1.1,
                    hcont hb.1.2, hcont hb.2⟩)
            · exact hsingle
          · exact hsingle
      · exact hsingle

theorem isRune_of_mem_runesFrom {t rune : Text} {skip : Nat}
    (h : rune ∈ runesFrom skip t) : IsRune rune := by
  induction t generalizing skip with
  | nil => cases h
  | cons b rest ih =>
      cases skip with
      | zero =>
          rcases List.mem_cons.mp h with rfl | h
          · exact isRune_take b rest
          · exact ih h
      | succ k => exact ih h

theorem isRune_of_mem {t rune : Text} (h : rune ∈ t.runes) : IsRune rune :=
  isRune_of_mem_runesFrom h

theorem isDigit_eq_false {b : UInt8} (h : 0x80 ≤ b) : Decimal.isDigit b = false := by
  rw [Decimal.isDigit, Bool.and_eq_false_iff, decide_eq_false_iff_not,
    decide_eq_false_iff_not]
  exact .inr fun hle => absurd (UInt8.le_trans h hle) (by decide)

theorem ofByte?_eq_none {b : UInt8} (h : 0x80 ≤ b) : Op.ofByte? b = none := by
  have hne : ∀ c : UInt8, c < 0x80 → b ≠ c := by
    rintro c hc rfl
    exact absurd (UInt8.lt_of_le_of_lt h hc) (UInt8.lt_irrefl _)
  unfold Op.ofByte?
  iterate 9 rw [if_neg (hne _ (by decide))]

/-- Comment says nothing. -/
theorem signs?_append {run : Text} (h : ∀ c ∈ run, Op.ofByte? c = none)
    (t : Text) : signs? (run ++ t) = signs? t := by
  induction run with
  | nil => rfl
  | cons b rest ih =>
      rw [List.cons_append, signs?_comment (h b List.mem_cons_self),
        ih fun c hc => h c (List.mem_cons_of_mem b hc)]

theorem signs?_wide {rune : Text} (h : ∀ c ∈ rune, 0x80 ≤ c) (t : Text) :
    signs? (rune ++ t) = signs? t :=
  signs?_append (fun c hc => ofByte?_eq_none (h c hc)) t

/-- A run of digits ends where a rune begins. -/
theorem flatten_takeWhile {runes : List Text} (h : ∀ rune ∈ runes, IsRune rune) :
    (runes.takeWhile fun rune => rune.all Decimal.isDigit).flatten =
      runes.flatten.takeWhile Decimal.isDigit := by
  induction runes with
  | nil => rfl
  | cons rune runes ih =>
      have ih := ih fun r hr => h r (List.mem_cons_of_mem rune hr)
      cases h rune List.mem_cons_self with
      | single b =>
          cases hb : Decimal.isDigit b with
          | true => simp [hb, ih]
          | false => simp [hb]
      | @wide b rest hwide =>
          simp [isDigit_eq_false (hwide b List.mem_cons_self)]

end Text

/-! ## The signs of a tree -/

/-- The operations at the two ends of a loop in brackets. -/
def Bracket.start : Bracket → Op
  | square => .whileStart
  | round => .repeatStart

theorem Bracket.start_inj {bracket bracket' : Bracket}
    (h : bracket.start = bracket'.start) : bracket = bracket' := by
  cases bracket with
  | square =>
      cases bracket' with
      | square => rfl
      | round => cases h
  | round =>
      cases bracket' with
      | square => cases h
      | round => rfl

namespace Block

/-- What a block says, from left to right. -/
def signs : Block → List Sign
  | done => []
  | act action next => ⟨action.op, 0⟩ :: next.signs
  | loop body next => ⟨.whileStart, 0⟩ :: body.signs ++ ⟨.whileEnd, 0⟩ :: next.signs
  | times body count next =>
    ⟨.repeatStart, 0⟩ :: body.signs ++ ⟨.repeatEnd, count⟩ :: next.signs

theorem nested_signs (b : Block) : Nested (b.signs.map Sign.op) := by
  induction b with
  | done => exact .nil
  | act action next ih =>
      refine .plain ?_ ih
      cases action <;> rfl
  | loop body next ihBody ihNext =>
      rw [signs, List.map_append]
      exact .pair rfl rfl ihBody ihNext
  | times body count next ihBody ihNext =>
      rw [signs, List.map_append]
      exact .pair rfl rfl ihBody ihNext

theorem signs_followedBy (item : Item) (next : Block) :
    (item.followedBy next).signs = (item.followedBy .done).signs ++ next.signs := by
  cases item <;> simp [Item.followedBy, signs]

theorem signs_foldl (items : List Item) (next : Block) :
    (items.foldl (fun block item => item.followedBy block) next).signs =
      (ofItems items).signs ++ next.signs := by
  induction items generalizing next with
  | nil => rfl
  | cons item items ih =>
      rw [ofItems, List.foldl_cons, List.foldl_cons, ih, signs_followedBy, ih,
        List.append_assoc]

theorem signs_ofItems_cons (item : Item) (items : List Item) :
    (ofItems (item :: items)).signs =
      (ofItems items).signs ++ (item.followedBy .done).signs :=
  signs_foldl items (item.followedBy .done)

end Block

/-! ## Following the reading -/

namespace Reading

/-- What was said up to the innermost open bracket. -/
def signsBefore : List OpenBracket → List Sign
  | [] => []
  | o :: outer =>
    signsBefore outer ++ (Block.ofItems o.before).signs ++ [⟨o.bracket.start, 0⟩]

/-- What was said so far. -/
def signs (r : Reading) : List Sign :=
  signsBefore r.opened ++ (Block.ofItems r.items).signs

def openOps (r : Reading) : List Op :=
  r.opened.map (·.bracket.start)

def Meaning.op? : Meaning → Option Op
  | act action => some action.op
  | opens bracket => some bracket.start
  | closes .square => some .whileEnd
  | closes .round => some .repeatEnd
  | comment => none

theorem Meaning.eq_comment {m : Meaning} (h : m.op? = none) : m = .comment := by
  cases m with
  | comment => rfl
  | act action | opens bracket => cases h
  | closes bracket => cases bracket <;> cases h

theorem op?_meaning (b : UInt8) : (meaning [b]).op? = Op.ofByte? b := by
  simp only [meaning, Op.ofByte?, List.cons.injEq, and_true,
    apply_ite Meaning.op?]
  rfl

theorem meaning_wide {b : UInt8} {rest : Text} (h : 0x80 ≤ b) :
    meaning (b :: rest) = .comment := by
  cases rest with
  | nil =>
      refine Meaning.eq_comment ?_
      rw [op?_meaning, Text.ofByte?_eq_none h]
  | cons c rest => simp [meaning]

/-- The count in a list of runes is the count in their text. -/
theorem count?_eq_ok_iff {runes : List Text}
    (h : ∀ rune ∈ runes, Text.IsRune rune) {n : Nat} :
    count? runes = .ok n ↔ Text.count? runes.flatten = some n := by
  cases runes with
  | nil => exact ⟨nofun, nofun⟩
  | cons rune runes =>
      have hdigits := Text.flatten_takeWhile fun r hr =>
        h r (List.mem_cons_of_mem rune hr)
      cases h rune List.mem_cons_self with
      | single b =>
          simp only [count?, hdigits, Text.count?, List.flatten_cons,
            List.singleton_append]
          grind
      | @wide b rest hwide =>
          have hb : b ≠ Text.byte '*' := by
            rintro rfl
            exact absurd (hwide _ List.mem_cons_self) (by decide)
          simp [count?, Text.count?, hb]

section Read

variable {r r' : Reading} {rune : Text} {rest : List Text}

theorem signs_act (r : Reading) (action : Action) :
    (r.act action).signs = r.signs ++ [⟨action.op, 0⟩] := by
  rw [signs, act, Block.signs_ofItems_cons, ← List.append_assoc]
  rfl

theorem signs_openBracket (r : Reading) (bracket : Bracket) :
    (r.openBracket bracket).signs = r.signs ++ [⟨bracket.start, 0⟩] := by
  rw [signs, openBracket, signsBefore]
  exact List.append_nil _

/-- A bracket that is closed: the opener was of its kind, and the loop is behind
what was read before it. -/
theorem closeBracket_eq_ok_iff {bracket : Bracket}
    {item : Block → Except Complaint Item} :
    r.closeBracket bracket item = .ok r' ↔
      ∃ top outer loop, r.opened = top :: outer ∧ top.bracket = bracket ∧
        item (Block.ofItems r.items) = .ok loop ∧
        r' = { r with items := loop :: top.before, opened := outer } := by
  rw [closeBracket]
  cases hopened : r.opened with
  | nil => exact ⟨nofun, nofun⟩
  | cons top outer =>
      by_cases hkind : top.bracket = bracket
      · simp only [ne_eq, hkind, not_true_eq_false, if_false]
        cases hitem : item (Block.ofItems r.items) with
        | error complaint =>
            refine ⟨nofun, ?_⟩
            rintro ⟨_, _, _, hopened', -, hloop, -⟩
            cases hloop
        | ok loop =>
            constructor
            · intro h
              cases h
              exact ⟨top, outer, loop, rfl, hkind, rfl, rfl⟩
            · rintro ⟨_, _, _, hopened', -, hloop, rfl⟩
              cases hopened'
              cases hloop
              rfl
      · simp only [ne_eq, hkind, not_false_eq_true, if_true]
        refine ⟨nofun, ?_⟩
        rintro ⟨_, _, _, hopened', hkind', -⟩
        cases hopened'
        exact absurd hkind' hkind

/-- Closing a bracket says the one sign by which the loop ends. -/
theorem signs_closeBracket {bracket : Bracket} {item : Block → Except Complaint Item}
    {stop : Sign}
    (hitem : ∀ body loop, item body = .ok loop →
      (loop.followedBy .done).signs = ⟨bracket.start, 0⟩ :: body.signs ++ [stop])
    (h : r.closeBracket bracket item = .ok r') :
    r'.signs = r.signs ++ [stop] := by
  obtain ⟨top, outer, loop, hopened, rfl, hloop, rfl⟩ :=
    closeBracket_eq_ok_iff.mp h
  rw [signs, signs, hopened, signsBefore, Block.signs_ofItems_cons,
    hitem _ loop hloop]
  simp only [List.append_assoc, List.cons_append, List.nil_append]

theorem signs_closeSquare
    (h : (r.closeBracket .square fun body => .ok (.loop body)) = .ok r') :
    r'.signs = r.signs ++ [⟨.whileEnd, 0⟩] := by
  refine signs_closeBracket ?_ h
  rintro body loop ⟨⟩
  rfl

/-- A counted loop is closed only if its count is there. -/
theorem exists_count_of_closeRound
    (h : (r.closeBracket .round fun body => (count? rest).map (.times body)) = .ok r') :
    ∃ n, count? rest = .ok n ∧ r'.signs = r.signs ++ [⟨.repeatEnd, n⟩] := by
  obtain ⟨_, _, _, -, -, hloop, -⟩ := closeBracket_eq_ok_iff.mp h
  cases hcount : count? rest with
  | error complaint =>
      rw [hcount] at hloop
      cases hloop
  | ok n =>
      refine ⟨n, rfl, signs_closeBracket ?_ h⟩
      rw [hcount]
      rintro body loop ⟨⟩
      rfl

/-- What one rune says is added to what was said before. -/
theorem signs_of_read (hrune : Text.IsRune rune)
    (hrest : ∀ later ∈ rest, Text.IsRune later)
    (h : r.read rune rest = .ok r') :
    ∃ ws, r'.signs = r.signs ++ ws ∧
      Text.signs? (rune ++ rest.flatten) =
        (Text.signs? rest.flatten).map (ws ++ ·) := by
  cases hrune with
  | wide hwide =>
      rw [read, meaning_wide (hwide _ List.mem_cons_self)] at h
      cases h
      exact ⟨[], (List.append_nil _).symm, by rw [Text.signs?_wide hwide]; simp⟩
  | single b =>
      have hop := op?_meaning b
      rw [read] at h
      cases hm : meaning [b] with
      | comment =>
          rw [hm] at h hop
          cases h
          exact ⟨[], (List.append_nil _).symm,
            by rw [List.singleton_append, Text.signs?_comment hop.symm]; simp⟩
      | act action =>
          rw [hm] at h hop
          cases h
          refine ⟨_, r.signs_act action, ?_⟩
          refine Text.signs?_plain hop.symm ?_
          cases action <;> nofun
      | opens bracket =>
          rw [hm] at h hop
          cases h
          refine ⟨_, r.signs_openBracket bracket, ?_⟩
          refine Text.signs?_plain hop.symm ?_
          cases bracket <;> nofun
      | closes bracket =>
          rw [hm] at h hop
          cases bracket with
          | square =>
              dsimp only at h
              split at h
              · next r₁ hclose =>
                  cases h
                  have hsaid := signs_closeSquare hclose
                  exact ⟨_, hsaid, Text.signs?_plain hop.symm nofun⟩
              · cases h
          | round =>
              dsimp only at h
              split at h
              · next r₁ hclose =>
                  cases h
                  obtain ⟨n, hcount, hsaid⟩ := exists_count_of_closeRound hclose
                  refine ⟨_, hsaid, ?_⟩
                  rw [List.singleton_append, Text.signs?_repeatEnd hop.symm,
                    (count?_eq_ok_iff hrest).mp hcount]
                  rfl
              · cases h

/-- If what is still to come begins with a closing bracket, the innermost open
bracket is of its kind. -/
theorem top_of_closes {bracket : Bracket} {op : Op} {ops : List Op}
    (hclose : op.opensLoop = false) (hpartner : op.partner? = some bracket.start)
    (hcloses : TapeDuel.closes r.openOps (op :: ops) = true) :
    ∃ top outer, r.opened = top :: outer ∧ top.bracket = bracket ∧
      TapeDuel.closes (outer.map (·.bracket.start)) ops = true := by
  rw [openOps] at hcloses
  cases hopened : r.opened with
  | nil =>
      rw [hopened, List.map_nil, closes_close_nil hclose hpartner] at hcloses
      cases hcloses
  | cons top outer =>
      rw [hopened, List.map_cons, closes_close_cons hclose hpartner,
        Bool.and_eq_true, beq_iff_eq] at hcloses
      exact ⟨top, outer, rfl, Bracket.start_inj hcloses.1, hcloses.2⟩

/-- So it can be closed, if there is a loop to be made of its body. -/
theorem exists_closeBracket (bracket : Bracket) (item : Block → Except Complaint Item)
    {loop : Item} {op : Op} {ops : List Op} (hclose : op.opensLoop = false)
    (hpartner : op.partner? = some bracket.start)
    (hcloses : TapeDuel.closes r.openOps (op :: ops) = true)
    (hloop : item (Block.ofItems r.items) = .ok loop) :
    ∃ r₁, r.closeBracket bracket item = .ok r₁ ∧
      TapeDuel.closes r₁.openOps ops = true := by
  obtain ⟨top, outer, hopened, hkind, hrest⟩ := top_of_closes hclose hpartner hcloses
  exact ⟨_, closeBracket_eq_ok_iff.mpr ⟨top, outer, loop, hopened, hkind, hloop, rfl⟩,
    hrest⟩

/-- A rune is read if its count is there and what is still to come closes the
brackets that are open. -/
theorem exists_read (hrune : Text.IsRune rune)
    (hrest : ∀ later ∈ rest, Text.IsRune later) {ws : List Sign}
    (hsigns : Text.signs? (rune ++ rest.flatten) = some ws)
    (hcloses : TapeDuel.closes r.openOps (ws.map Sign.op) = true) :
    ∃ r' tail, r.read rune rest = .ok r' ∧
      Text.signs? rest.flatten = some tail ∧
      TapeDuel.closes r'.openOps (tail.map Sign.op) = true := by
  cases hrune with
  | wide hwide =>
      rw [Text.signs?_wide hwide] at hsigns
      rw [read, meaning_wide (hwide _ List.mem_cons_self)]
      exact ⟨_, ws, rfl, hsigns, hcloses⟩
  | single b =>
      have hop := op?_meaning b
      rw [List.singleton_append] at hsigns
      rcases Text.signs?_cons hsigns with ⟨hnone, htail⟩ |
        ⟨op, iterations, tail, hsome, htail, rfl, hcount⟩
      · rw [hnone] at hop
        rw [read, Meaning.eq_comment hop]
        exact ⟨_, ws, rfl, htail, hcloses⟩
      · rw [hsome] at hop
        rw [List.map_cons] at hcloses
        rw [read]
        cases hm : meaning [b] with
        | comment =>
            rw [hm] at hop
            cases hop
        | act action =>
            rw [hm] at hop
            cases hop
            refine ⟨_, tail, rfl, htail, ?_⟩
            rw [closes_plain (by cases action <;> rfl)] at hcloses
            exact hcloses
        | opens bracket =>
            rw [hm] at hop
            cases hop
            refine ⟨_, tail, rfl, htail, ?_⟩
            rw [closes_open (by cases bracket <;> rfl)] at hcloses
            exact hcloses
        | closes bracket =>
            rw [hm] at hop
            cases bracket with
            | square =>
                cases hop
                obtain ⟨r₁, hclose, hcloses'⟩ := exists_closeBracket .square
                  (fun body => .ok (.loop body)) rfl rfl hcloses rfl
                rw [hclose]
                exact ⟨_, tail, rfl, htail, hcloses'⟩
            | round =>
                cases hop
                rw [if_pos rfl] at hcount
                obtain ⟨n, hn, -⟩ := hcount
                have hloop : (count? rest).map
                    (Item.times (Block.ofItems r.items)) =
                      .ok (.times (Block.ofItems r.items) n) := by
                  rw [(count?_eq_ok_iff hrest).mpr hn]
                  rfl
                obtain ⟨r₁, hclose, hcloses'⟩ := exists_closeBracket .round
                  (fun body => (count? rest).map (.times body)) rfl rfl hcloses hloop
                rw [hclose]
                exact ⟨_, tail, rfl, htail, hcloses'⟩

end Read

end Reading

/-! ## The whole source -/

namespace Source

theorem signs?_of_parseFrom (s : Source) {runes : List Text}
    (hrunes : ∀ rune ∈ runes, Text.IsRune rune) {r : Reading} {b : Block}
    (h : s.parseFrom runes r = .ok b) :
    ∃ ws, Text.signs? runes.flatten = some ws ∧ b.signs = r.signs ++ ws := by
  induction runes generalizing r with
  | nil =>
      rw [parseFrom] at h
      split at h
      · next hopened =>
          cases h
          refine ⟨[], rfl, ?_⟩
          rw [Reading.signs, hopened, List.append_nil]
          rfl
      · cases h
  | cons rune rest ih =>
      have hrest : ∀ later ∈ rest, Text.IsRune later :=
        fun later hl => hrunes later (List.mem_cons_of_mem rune hl)
      rw [parseFrom] at h
      split at h
      · next r' hread =>
          obtain ⟨ws, hsigns, hsigns?⟩ :=
            Reading.signs_of_read (hrunes rune List.mem_cons_self) hrest hread
          obtain ⟨ws', hws', hb⟩ := ih hrest h
          refine ⟨ws ++ ws', ?_, ?_⟩
          · rw [List.flatten_cons, hsigns?, hws']
            rfl
          · rw [hb, hsigns, List.append_assoc]
      · cases h

theorem exists_parseFrom (s : Source) {runes : List Text}
    (hrunes : ∀ rune ∈ runes, Text.IsRune rune) {r : Reading} {ws : List Sign}
    (hsigns : Text.signs? runes.flatten = some ws)
    (hcloses : closes r.openOps (ws.map Sign.op) = true) :
    ∃ b, s.parseFrom runes r = .ok b := by
  induction runes generalizing r ws with
  | nil =>
      cases hsigns
      have hopened : r.opened = [] := by
        simpa [closes, Reading.openOps] using hcloses
      rw [parseFrom, hopened]
      exact ⟨_, rfl⟩
  | cons rune rest ih =>
      have hrest : ∀ later ∈ rest, Text.IsRune later :=
        fun later hl => hrunes later (List.mem_cons_of_mem rune hl)
      obtain ⟨r', tail, hread, htail, hcloses'⟩ :=
        Reading.exists_read (hrunes rune List.mem_cons_self) hrest hsigns hcloses
      rw [parseFrom, hread]
      exact ih hrest htail hcloses'

variable {s : Source}

theorem signs?_of_parse {b : Block} (h : s.parse = .ok b) :
    s.text.signs? = some b.signs := by
  obtain ⟨ws, hws, hb⟩ :=
    s.signs?_of_parseFrom (fun _ hr => Text.isRune_of_mem hr) h
  rw [Text.flatten_runes] at hws
  rw [hws, hb]
  rfl

/-- A source has a tree exactly if no count is missing and its brackets are
nested. -/
theorem exists_parse_iff :
    (∃ b, s.parse = .ok b) ↔
      ∃ ws, s.text.signs? = some ws ∧ closes [] (ws.map Sign.op) = true := by
  constructor
  · rintro ⟨b, h⟩
    exact ⟨b.signs, signs?_of_parse h, b.nested_signs.closes⟩
  · rintro ⟨ws, hws, hcloses⟩
    refine s.exists_parseFrom (fun _ hr => Text.isRune_of_mem hr) ?_ hcloses
    rw [Text.flatten_runes, hws]

end Source

end TapeDuel
