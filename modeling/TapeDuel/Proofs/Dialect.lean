import Mathlib
import TapeDuel.Proofs.Layout
import TapeDuel.Proofs.Signs

/-!
# The dialect and the programs of its texts

Which texts compile, and to what, is said here of bytes alone. A text is in the
dialect if its brackets are nested and a count follows each round bracket that is
closed; there is no other way to be wrong, whatever stands between. What it
denotes has one instruction for each byte that stands for an operation, and every
end of a loop names its partner.

Nothing more has to be said of a program: places follow from the nesting. So a
program whose loops are linked as their brackets match is known by its signs
(`Program.ext_of_signs`), and the main statement comes down to the signs of the
tree that a text is read to.
-/

namespace TapeDuel

/-- What an instruction holds besides the place of its partner. -/
def Instruction.sign (i : Instruction) : Sign :=
  ⟨i.op, i.iterations⟩

/-- The target of an instruction at the place `k` of the word `w`: the partner
of a bracket, and zero for everything else. -/
def Instruction.Names (w : List Op) (k : Nat) (i : Instruction) : Prop :=
  if i.op.isBracket then ∃ t : Nat, i.target = t ∧ Partners w k t
  else i.target = 0

theorem Instruction.Names.target_unique {w : List Op} {k : Nat}
    {i j : Instruction} (hi : i.Names w k) (hj : j.Names w k)
    (hop : i.op = j.op) : i.target = j.target := by
  rw [Names] at hi hj
  rw [← hop] at hj
  split at hi
  · next hbracket =>
      rw [if_pos hbracket] at hj
      obtain ⟨t, ht, hpartner⟩ := hi
      obtain ⟨t', ht', hpartner'⟩ := hj
      rw [ht, ht', hpartner.unique hpartner']
  · next hbracket =>
      rw [if_neg hbracket] at hj
      rw [hi, hj]

namespace Program

def ops (p : Program) : List Op :=
  p.toList.map Instruction.op

def signs (p : Program) : List Sign :=
  p.toList.map Instruction.sign

/-- Every instruction has the target that the brackets of the program give it. -/
def Linked (p : Program) : Prop :=
  ∀ (k : Nat) (i : Instruction), p[k]? = some i → i.Names p.ops k

theorem map_op_signs (p : Program) : p.signs.map Sign.op = p.ops := by
  rw [signs, ops, List.map_map]
  rfl

theorem getElem?_signs (p : Program) (k : Nat) :
    p.signs[k]? = p[k]?.map Instruction.sign := by
  rw [signs, List.getElem?_map, Array.getElem?_toList]

theorem getElem?_ops (p : Program) (k : Nat) :
    p.ops[k]? = p[k]?.map Instruction.op := by
  rw [ops, List.getElem?_map, Array.getElem?_toList]

theorem ext_of_signs {p q : Program} (h : p.signs = q.signs) (hp : p.Linked)
    (hq : q.Linked) : p = q := by
  refine Array.ext_getElem? fun k => ?_
  have hsign := p.getElem?_signs k
  rw [h, q.getElem?_signs k] at hsign
  cases hi : p[k]? with
  | none =>
      rw [hi] at hsign
      exact (Option.map_eq_none_iff.mp hsign).symm
  | some i =>
      rw [hi] at hsign
      obtain ⟨j, hj, hij⟩ := Option.map_eq_some_iff.mp hsign
      rw [hj]
      have hopsEq : p.ops = q.ops := by
        rw [← map_op_signs, h, map_op_signs]
      have hnames := hq k j hj
      rw [← hopsEq] at hnames
      have htarget := (hp k i hi).target_unique hnames
        (congrArg Sign.op hij).symm
      obtain ⟨op, target, iterations⟩ := i
      obtain ⟨op', target', iterations'⟩ := j
      cases hij
      cases htarget
      rfl

end Program

/-! ## The program of a tree -/

namespace Block

theorem map_sign_codeAt (b : Block) (k : Nat) :
    (b.codeAt k).map Instruction.sign = b.signs := by
  induction b generalizing k with
  | done => rfl
  | act action next ih =>
      rw [codeAt, List.map_cons, ih]
      rfl
  | loop body next ihBody ihNext | times body count next ihBody ihNext =>
      rw [codeAt, List.map_append, List.map_cons, List.map_cons, ihBody, ihNext]
      rfl

theorem signs_program (b : Block) : b.program.signs = b.signs := by
  rw [Program.signs, toList_program, map_sign_codeAt]

section Linked

variable {p : Program} {body next : Block} {k : Nat}

/-- The code that a program holds cuts its operations in three. -/
theorem Holds.ops_eq {first : Instruction} {code : List Instruction}
    (h : Holds p k (first :: code)) :
    ∃ before behind : List Op, before.length = k ∧
      p.ops = before ++ ((first :: code).map Instruction.op ++ behind) := by
  have hk := Program.lt_size_of_getElem? h.head
  have hprefix : first :: code <+: p.toList.drop k := by
    refine List.prefix_iff_getElem?.mpr fun n hn => ?_
    rw [List.getElem?_drop, Array.getElem?_toList]
    exact h n _ (List.getElem?_eq_getElem hn)
  obtain ⟨tail, htail⟩ := hprefix
  refine ⟨(p.toList.take k).map Instruction.op, tail.map Instruction.op, ?_, ?_⟩
  · rw [List.length_map, List.length_take, Array.length_toList]
    omega
  · rw [← List.map_append, htail, ← List.map_append, List.take_append_drop]
    rfl

/-- The two ends of a loop of either kind are matched. -/
theorem Holds.matched {first last : Instruction}
    (h : Holds p k (first :: body.codeAt (k + 1) ++
      last :: next.codeAt (k + body.size + 2)))
    (hopen : first.op.opensLoop = true)
    (hpartner : first.op.partner? = some last.op) :
    Matched p.ops k (k + body.size + 1) := by
  obtain ⟨before, behind, hlength, hops⟩ := Holds.ops_eq h
  have hbody : (body.codeAt (k + 1)).map Instruction.op =
      body.signs.map Sign.op := by
    rw [← map_sign_codeAt body (k + 1), List.map_map]
    rfl
  refine ⟨before, first.op, (body.codeAt (k + 1)).map Instruction.op, last.op,
    (next.codeAt (k + body.size + 2)).map Instruction.op ++ behind, ?_,
    hlength, ?_, hopen, hpartner, ?_⟩
  · rw [hops]
    simp
  · rw [List.length_map, length_codeAt]
  · rw [hbody]
    exact body.nested_signs

/-- In a loop of either kind all targets are right if they are in its body and
in what follows. -/
theorem names_of_enclosed {first last : Instruction}
    (h : Holds p k (first :: body.codeAt (k + 1) ++
      last :: next.codeAt (k + body.size + 2)))
    (hopen : first.op.opensLoop = true)
    (hpartner : first.op.partner? = some last.op)
    (hfirst : first.target = (k + body.size + 1 : Nat)) (hlast : last.target = k)
    (hbody : ∀ n i, k + 1 ≤ n → n < k + 1 + body.size → p[n]? = some i →
      i.Names p.ops n)
    (hnext : ∀ n i, k + body.size + 2 ≤ n →
      n < k + body.size + 2 + next.size → p[n]? = some i → i.Names p.ops n) :
    ∀ n i, k ≤ n → n < k + (body.size + next.size + 2) → p[n]? = some i →
      i.Names p.ops n := by
  intro n i hlo hhi hi
  have hmatched := Holds.matched h hopen hpartner
  obtain ⟨hfirstAt, -, hlastAt, -⟩ := Holds.enclosed h
  obtain ⟨hback, -⟩ := Op.closes_of_opens hopen hpartner
  rcases Nat.eq_or_lt_of_le hlo with rfl | hlo
  · rw [hfirstAt] at hi
    cases hi
    rw [Instruction.Names, if_pos (by rw [Op.isBracket, hpartner]; rfl)]
    exact ⟨_, hfirst, .inl hmatched⟩
  rcases Nat.lt_trichotomy n (k + body.size + 1) with hlt | rfl | hgt
  · exact hbody n i hlo (by omega) hi
  · rw [hlastAt] at hi
    cases hi
    rw [Instruction.Names, if_pos (by rw [Op.isBracket, hback]; rfl)]
    exact ⟨_, hlast, .inr hmatched⟩
  · exact hnext n i hgt (by omega) hi

theorem LaidAt.names {b : Block} (h : LaidAt p b k) :
    ∀ n i, k ≤ n → n < k + b.size → p[n]? = some i → i.Names p.ops n := by
  induction b generalizing k with
  | done =>
      intro n i hlo hhi
      rw [size] at hhi
      omega
  | act action next ih =>
      intro n i hlo hhi hi
      rw [size] at hhi
      rcases Nat.eq_or_lt_of_le hlo with rfl | hlo
      · rw [h.act.1] at hi
        cases hi
        have hplain : ¬ action.op.isBracket = true := by
          cases action <;> exact Bool.false_ne_true
        exact (if_neg hplain).mpr rfl
      · exact ih h.act.2 n i hlo (by omega) hi
  | loop body next ihBody ihNext =>
      obtain ⟨-, hbody, -, hnext⟩ := h.loop
      exact names_of_enclosed h rfl rfl rfl rfl (ihBody hbody) (ihNext hnext)
  | times body count next ihBody ihNext =>
      obtain ⟨-, hbody, -, hnext⟩ := h.times
      exact names_of_enclosed h rfl rfl rfl rfl (ihBody hbody) (ihNext hnext)

end Linked

theorem linked_program (b : Block) : b.program.Linked := by
  intro k i hi
  have hk := Program.lt_size_of_getElem? hi
  rw [size_program] at hk
  exact b.laidAt_program.names k i (Nat.zero_le k) (by omega) hi

end Block

/-! ## Compiling, sign by sign -/

theorem exists_compile_iff {t : Text} :
    (∃ p, compile t = .ok p) ↔
      ∃ ws, t.signs? = some ws ∧ closes [] (ws.map Sign.op) = true := by
  rw [← Source.exists_parse_iff (s := ⟨"", t⟩)]
  constructor
  · rintro ⟨p, h⟩
    obtain ⟨b, hb, -⟩ := Source.compile_eq_ok_iff.mp h
    exact ⟨b, hb⟩
  · rintro ⟨b, hb⟩
    exact ⟨_, Source.compile_eq_ok_iff.mpr ⟨b, hb, rfl⟩⟩

theorem signs_of_compile {t : Text} {p : Program} (h : compile t = .ok p) :
    t.signs? = some p.signs := by
  obtain ⟨b, hb, rfl⟩ := Source.compile_eq_ok_iff.mp h
  rw [b.signs_program]
  exact Source.signs?_of_parse hb

theorem linked_of_compile {t : Text} {p : Program} (h : compile t = .ok p) :
    p.Linked := by
  obtain ⟨b, -, rfl⟩ := Source.compile_eq_ok_iff.mp h
  exact b.linked_program

/-! ## What is in the dialect -/

namespace Text

/-- The operations that the bytes of a text stand for, in order. -/
def ops (t : Text) : List Op :=
  t.filterMap Op.ofByte?

/-- The count `n` stands at the start of the text: a star, and a whole run of
digits, at least one, with the value `n` below `2 ^ 63`. -/
def Counts (t : Text) (n : Nat) : Prop :=
  ∃ run tail : Text, t = byte '*' :: (run ++ tail) ∧ run ≠ [] ∧
    (∀ b ∈ run, Decimal.isDigit b = true) ∧
    (∀ b, tail.head? = some b → Decimal.isDigit b = false) ∧
    Decimal.read run = n ∧ n < 2 ^ 63

/-- The text is in the dialect: its brackets are nested, and a count follows
each round bracket that is closed. -/
structure InDialect (t : Text) : Prop where
  nested : Nested (t.ops.filter Op.isBracket)
  counted : ∀ before behind, t = before ++ byte ')' :: behind →
    ∃ n, Counts behind n

/-- The program is what the text denotes: it has the operations of the text,
each linked to its partner, and the counts that stand in the text. -/
structure Denotes (t : Text) (p : Program) : Prop where
  ops : p.ops = t.ops
  linked : p.Linked
  counted : ∀ before behind, t = before ++ byte ')' :: behind →
    ∃ n i, Counts behind n ∧ p[(Text.ops before).length]? = some i ∧
      i.iterations = n
  uncounted : ∀ (k : Nat) (i : Instruction), p[k]? = some i →
    i.op ≠ .repeatEnd → i.iterations = 0

theorem count?_eq_some_iff {t : Text} {n : Nat} :
    t.count? = some n ↔ t.Counts n := by
  constructor
  · intro h
    cases t with
    | nil => cases h
    | cons b tail =>
        rw [count?] at h
        split at h
        · next hcount =>
            obtain ⟨rfl, hrun, hmax⟩ := hcount
            cases h
            refine ⟨tail.takeWhile Decimal.isDigit, tail.dropWhile Decimal.isDigit,
              by rw [List.takeWhile_append_dropWhile], hrun, ?_, ?_, rfl, ?_⟩
            · exact fun b hb => List.all_eq_true.mp List.all_takeWhile b hb
            · intro b hb
              have := List.head?_dropWhile_not Decimal.isDigit tail
              rw [hb] at this
              simpa using this
            · exact Nat.lt_of_le_of_lt hmax (by decide)
        · cases h
  · rintro ⟨run, tail, rfl, hrun, hdigits, htail, rfl, hmax⟩
    have htake : (run ++ tail).takeWhile Decimal.isDigit = run := by
      rw [List.takeWhile_append_of_pos hdigits]
      cases tail with
      | nil => rw [List.takeWhile_nil, List.append_nil]
      | cons b tail =>
          rw [List.takeWhile_cons, if_neg (by simp [htail b rfl]), List.append_nil]
    rw [count?, htake, if_pos ⟨rfl, hrun, Nat.le_of_lt_succ hmax⟩]

theorem Counts.unique {t : Text} {m n : Nat} (hm : t.Counts m)
    (hn : t.Counts n) : m = n := by
  rw [← count?_eq_some_iff] at hm hn
  rw [hm] at hn
  cases hn
  rfl

theorem exists_of_getElem?_ops {t : Text} {k : Nat} {op : Op}
    (h : t.ops[k]? = some op) :
    ∃ before b behind, t = before ++ b :: behind ∧ (ops before).length = k ∧
      Op.ofByte? b = some op := by
  induction t generalizing k with
  | nil => cases h
  | cons b rest ih =>
      rw [ops] at h
      cases hb : Op.ofByte? b with
      | none =>
          rw [List.filterMap_cons_none hb] at h
          obtain ⟨before, b', behind, rfl, hlength, hop⟩ := ih h
          refine ⟨b :: before, b', behind, rfl, ?_, hop⟩
          rw [ops, List.filterMap_cons_none hb]
          exact hlength
      | some op' =>
          rw [List.filterMap_cons_some hb] at h
          cases k with
          | zero =>
              cases h
              exact ⟨[], b, rest, rfl, rfl, hb⟩
          | succ k =>
              obtain ⟨before, b', behind, rfl, hlength, hop⟩ := ih h
              refine ⟨b :: before, b', behind, rfl, ?_, hop⟩
              rw [ops, List.filterMap_cons_some hb]
              exact congrArg (· + 1) hlength

theorem exists_signs?_iff_counts {t : Text} :
    (∃ ws, t.signs? = some ws) ↔
      ∀ before behind, t = before ++ byte ')' :: behind →
        ∃ n, Counts behind n := by
  simp only [exists_signs?_iff, count?_eq_some_iff]

/-- A program that a text denotes has the signs of the text. -/
theorem Denotes.signs?_eq {t : Text} {p : Program} (h : t.Denotes p) :
    t.signs? = some p.signs := by
  obtain ⟨ws, hws⟩ := exists_signs?_iff_counts.mpr fun before behind ht => by
    obtain ⟨n, i, hn, -⟩ := h.counted before behind ht
    exact ⟨n, hn⟩
  rw [hws]
  refine congrArg some (List.ext_getElem? fun k => ?_)
  have hop : (ws.map Sign.op)[k]? = p.ops[k]? := by
    rw [ops_of_signs? hws, h.ops]
    rfl
  rw [p.getElem?_ops] at hop
  rw [p.getElem?_signs]
  cases hi : p[k]? with
  | none =>
      rw [hi, List.getElem?_map] at hop
      rw [Option.map_eq_none_iff.mp hop]
      rfl
  | some i =>
      have hget : t.ops[k]? = some i.op := by
        rw [← h.ops, p.getElem?_ops, hi]
        rfl
      obtain ⟨before, b, behind, rfl, rfl, hb⟩ := exists_of_getElem?_ops hget
      obtain ⟨iterations, hsign, hn⟩ := getElem?_of_signs? hws hb
      refine hsign.trans (congrArg some (congrArg (Sign.mk i.op) ?_))
      split at hn
      · next hend =>
          rw [hend] at hb
          obtain rfl := Op.eq_of_ofByte?_repeatEnd hb
          obtain ⟨n, hn, rfl⟩ := hn
          obtain ⟨n', i', hn', hi', hcount⟩ := h.counted before behind rfl
          rw [hi] at hi'
          cases hi'
          rw [hcount, (count?_eq_some_iff.mp hn).unique hn']
      · next hend => rw [hn, h.uncounted _ i hi hend]

/-- And a linked program with the signs of a text is what the text denotes. -/
theorem denotes_of_signs? {t : Text} {p : Program}
    (hsigns : t.signs? = some p.signs) (hlinked : p.Linked) : t.Denotes p := by
  have hops : p.ops = t.ops := by
    rw [← p.map_op_signs, ops_of_signs? hsigns]
    rfl
  refine ⟨hops, hlinked, ?_, ?_⟩
  · rintro before behind rfl
    obtain ⟨iterations, hget, hn⟩ := getElem?_of_signs? hsigns
      (show Op.ofByte? (byte ')') = some .repeatEnd from rfl)
    rw [if_pos rfl] at hn
    obtain ⟨n, hn, rfl⟩ := hn
    rw [p.getElem?_signs] at hget
    obtain ⟨i, hi, hsign⟩ := Option.map_eq_some_iff.mp hget
    exact ⟨n, i, count?_eq_some_iff.mp hn, hi, congrArg Sign.iterations hsign⟩
  · intro k i hi hop
    have hget : t.ops[k]? = some i.op := by
      rw [← hops, p.getElem?_ops, hi]
      rfl
    obtain ⟨before, b, behind, rfl, rfl, hb⟩ := exists_of_getElem?_ops hget
    obtain ⟨iterations, hsign, hn⟩ := getElem?_of_signs? hsigns hb
    rw [if_neg hop] at hn
    have hsign' := p.getElem?_signs (ops before).length
    rw [hi] at hsign'
    have := Option.some.inj (hsign'.symm.trans hsign)
    exact (congrArg Sign.iterations this).trans hn

end Text

/-- A text compiles exactly if it is in the dialect, and then to the program that
it denotes, of which there is only one. -/
theorem compile_iff_inDialect (t : Text) :
    ((∃ p, compile t = .ok p) ↔ t.InDialect) ∧
      ∀ p, compile t = .ok p → t.Denotes p ∧ ∀ q, t.Denotes q → q = p := by
  refine ⟨?_, fun p hp => ⟨?_, fun q hq => ?_⟩⟩
  · constructor
    · rintro ⟨p, h⟩
      obtain ⟨b, hb, -⟩ := Source.compile_eq_ok_iff.mp h
      have hsigns : t.signs? = some b.signs := Source.signs?_of_parse hb
      refine ⟨?_, Text.exists_signs?_iff_counts.mp ⟨_, hsigns⟩⟩
      have hops : b.signs.map Sign.op = t.ops := Text.ops_of_signs? hsigns
      rw [← hops]
      exact b.nested_signs.filter_isBracket
    · intro h
      obtain ⟨ws, hws⟩ := Text.exists_signs?_iff_counts.mpr h.counted
      have hops : ws.map Sign.op = t.ops := Text.ops_of_signs? hws
      refine exists_compile_iff.mpr ⟨ws, hws, ?_⟩
      rw [hops, ← closes_filter_isBracket]
      exact h.nested.closes
  · exact Text.denotes_of_signs? (signs_of_compile hp) (linked_of_compile hp)
  · have hsigns := signs_of_compile hp
    rw [hq.signs?_eq] at hsigns
    exact Program.ext_of_signs (Option.some.inj hsigns) hq.linked
      (linked_of_compile hp)

/-- The theorem at a broken rune inside a loop that runs seventy-one times: the
step is still seen behind the lead byte, and the count has a leading zero. -/
theorem broken_rune_denotes_loop :
    Text.Denotes (("(" : Text) ++ 0xE2 :: ("+)*071-" : Text))
      #[.linked .repeatStart 2, .plain .increment, .repeatEnd 0 71,
        .plain .decrement] := by
  have hcompile : compile (("(" : Text) ++ 0xE2 :: ("+)*071-" : Text)) =
      .ok #[.linked .repeatStart 2, .plain .increment, .repeatEnd 0 71,
        .plain .decrement] := by cbv
  exact ((compile_iff_inDialect _).2 _ hcompile).1

end TapeDuel
