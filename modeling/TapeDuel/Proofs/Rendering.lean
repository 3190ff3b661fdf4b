import TapeDuel.Proofs.Dialect
import TapeDuel.Proofs.Numerals

/-!
# Programs written out and read back

A program is written without its targets and with its counts in decimal. Read
back, the targets follow from the nesting (`Program.ext_of_signs`), so all that
is left to show is that the signs survive: what follows a count never begins
with a digit, and the digits of a count are comment once they have been read.

`Program.Canonical` is what a compiler gives, said of the program alone. That
every canonical program comes from a text is shown with the text that the
program itself is written out to.
-/

namespace TapeDuel

theorem Op.ofByte?_of_isDigit {b : UInt8} (h : Decimal.isDigit b = true) :
    Op.ofByte? b = none := by
  unfold Op.ofByte?
  iterate 9 rw [if_neg (Decimal.ne_of_isDigit h (by decide))]

/-! ## Canonical programs -/

/-- The operation is known, and its number of iterations is one that can stand
in a text: none but at the end of a counted loop. -/
def Sign.Written (w : Sign) : Prop :=
  match w.op with
  | .unknown _ _ => False
  | .repeatEnd => 0 ≤ w.iterations ∧ w.iterations < 2 ^ 63
  | _ => w.iterations = 0

/-- What a compiled program is like: its loops are nested, each end of one has
the place of the other as its target, and all other operands are zero but the
counts. -/
structure Program.Canonical (p : Program) : Prop where
  nested : Nested p.ops
  linked : p.Linked
  written : ∀ w ∈ p.signs, w.Written

namespace Text

theorem written_of_signs? {t : Text} {ws : List Sign} (h : t.signs? = some ws) :
    ∀ w ∈ ws, w.Written := by
  induction t generalizing ws with
  | nil =>
      cases h
      nofun
  | cons b rest ih =>
      rcases signs?_cons h with ⟨-, hrest⟩ | ⟨op, n, tail, hop, hrest, rfl, hn⟩
      · exact ih hrest
      · refine List.forall_mem_cons.mpr ⟨?_, ih hrest⟩
        cases op with
        | unknown code unassigned =>
            simp only [Op.ofByte?] at hop
            grind
        | repeatEnd =>
            rw [if_pos rfl] at hn
            obtain ⟨n, hcount, rfl⟩ := hn
            obtain ⟨-, -, -, -, -, -, -, hmax⟩ := count?_eq_some_iff.mp hcount
            exact ⟨Int.natCast_nonneg n, show (n : Int) < 2 ^ 63 by omega⟩
        | _ => exact hn

end Text

theorem canonical_of_compile {t : Text} {p : Program} (h : compile t = .ok p) :
    p.Canonical := by
  have hsigns := signs_of_compile h
  refine ⟨?_, linked_of_compile h, Text.written_of_signs? hsigns⟩
  obtain ⟨b, -, rfl⟩ := Source.compile_eq_ok_iff.mp h
  rw [← Program.map_op_signs, b.signs_program]
  exact b.nested_signs

/-! ## Reading what was written -/

section Render

variable {i : Instruction} {code : List Instruction}

theorem isDigit_head_render {b : UInt8} (h : i.render.head? = some b) :
    Decimal.isDigit b = false := by
  rw [Instruction.render] at h
  split at h <;> cases h <;> rfl

theorem render_ne_nil (h : i.sign.Written) : i.render ≠ [] := by
  obtain ⟨op, target, iterations⟩ := i
  cases op with
  | unknown code unassigned => exact h.elim
  | _ => exact List.cons_ne_nil _ _

theorem isDigit_head_flatMap_render (h : ∀ i ∈ code, i.sign.Written)
    {b : UInt8} (hb : (code.flatMap Instruction.render).head? = some b) :
    Decimal.isDigit b = false := by
  cases code with
  | nil => cases hb
  | cons i rest =>
      obtain ⟨c, tail, hrender⟩ :=
        List.exists_cons_of_ne_nil (render_ne_nil (h i List.mem_cons_self))
      rw [List.flatMap_cons, hrender] at hb
      refine isDigit_head_render (i := i) ?_
      rw [hrender]
      exact hb

/-- A count is read to its end and no further. -/
theorem count?_write {n : Nat} (hn : n < 2 ^ 63)
    (h : ∀ i ∈ code, i.sign.Written) :
    Text.count? (Text.byte '*' ::
      (Decimal.write n ++ code.flatMap Instruction.render)) = some n :=
  Text.count?_eq_some_iff.mpr ⟨_, _, rfl, Decimal.write_ne_nil n,
    fun _ => Decimal.isDigit_of_mem_write, fun _ => isDigit_head_flatMap_render h,
    Decimal.read_write n, hn⟩

/-- Code that can be written says the same when it is read back. -/
theorem signs?_render (h : ∀ i ∈ code, i.sign.Written) :
    Text.signs? (code.flatMap Instruction.render) =
      some (code.map Instruction.sign) := by
  induction code with
  | nil => rfl
  | cons i rest ih =>
      obtain ⟨hi, hrest⟩ := List.forall_mem_cons.mp h
      have ih := ih hrest
      obtain ⟨op, target, iterations⟩ := i
      rw [List.flatMap_cons, List.map_cons]
      cases op with
      | unknown code unassigned => exact hi.elim
      | repeatEnd =>
          obtain ⟨hlow, hhigh⟩ := hi
          obtain ⟨n, rfl⟩ := Int.eq_ofNat_of_zero_le hlow
          have hn : n < 2 ^ 63 := by
            have : (n : Int) < 2 ^ 63 := hhigh
            omega
          have hwrite := Decimal.writeInt_natCast n
          have hdigits : ∀ b ∈ Decimal.write n, Op.ofByte? b = none :=
            fun b hb => Op.ofByte?_of_isDigit (Decimal.isDigit_of_mem_write hb)
          rw [Instruction.render]
          simp only [hwrite, List.cons_append]
          rw [Text.signs?_repeatEnd rfl, count?_write hn hrest,
            Text.signs?_comment (by decide), Text.signs?_append hdigits, ih]
          rfl
      | moveBack | moveForward | increment | decrement | rest | whileStart |
        whileEnd | repeatStart =>
          cases (show iterations = 0 from hi)
          refine Eq.trans (Text.signs?_plain rfl ?_) ?_
          · nofun
          · exact congrArg (Option.map _) ih

end Render

/-- A canonical program is what its own rendering compiles to. -/
theorem Program.Canonical.compile_render {p : Program} (h : p.Canonical) :
    compile p.render = .ok p := by
  have hwritten : ∀ i ∈ p.toList, i.sign.Written :=
    fun i hi => h.written _ (List.mem_map_of_mem hi)
  have hsigns : Text.signs? p.render = some p.signs := signs?_render hwritten
  obtain ⟨q, hq⟩ := exists_compile_iff.mpr ⟨_, hsigns, by
    rw [p.map_op_signs]
    exact h.nested.closes⟩
  have hsigns' := signs_of_compile hq
  rw [hsigns] at hsigns'
  rw [hq, Program.ext_of_signs (Option.some.inj hsigns') h.linked
    (linked_of_compile hq)]

theorem minify_eq_ok_iff {t u : Text} :
    minify t = .ok u ↔ ∃ p, compile t = .ok p ∧ u = p.render := by
  rw [minify]
  cases compile t with
  | error problems => exact ⟨nofun, nofun⟩
  | ok p =>
      constructor
      · intro h
        cases h
        exact ⟨p, rfl, rfl⟩
      · rintro ⟨p', h, rfl⟩
        cases h
        rfl

/-- What compiles is canonical, what is canonical passes the check and is what
its rendering compiles to. So a text without its comments stays as it is, and
two texts are the same without their comments exactly if they compile to the
same program. -/
theorem rendering_inverts_compile :
    (∀ p : Program, (∃ t, compile t = .ok p) ↔ p.Canonical) ∧
    (∀ p : Program, p.Canonical →
      p.validate = .ok () ∧ compile p.render = .ok p) ∧
    (∀ (t : Text) (p : Program), compile t = .ok p →
      ∃ u, minify t = .ok u ∧ minify u = .ok u) ∧
    (∀ (s t : Text) (p q : Program), compile s = .ok p → compile t = .ok q →
      (minify s = minify t ↔ compile s = compile t)) := by
  refine ⟨fun p => ⟨?_, fun h => ⟨_, h.compile_render⟩⟩, fun p h =>
    ⟨?_, h.compile_render⟩, fun t p h => ?_, fun s t p q hs ht => ?_⟩
  · rintro ⟨t, h⟩
    exact canonical_of_compile h
  · exact (Source.sound_of_compile h.compile_render).valid
  · have hrender := (canonical_of_compile h).compile_render
    exact ⟨_, minify_eq_ok_iff.mpr ⟨p, h, rfl⟩,
      minify_eq_ok_iff.mpr ⟨p, hrender, rfl⟩⟩
  · constructor
    · intro h
      rw [minify_eq_ok_iff.mpr ⟨p, hs, rfl⟩, minify_eq_ok_iff.mpr ⟨q, ht, rfl⟩] at h
      have hp := (canonical_of_compile hs).compile_render
      have hq := (canonical_of_compile ht).compile_render
      rw [Except.ok.inj h, hq] at hp
      rw [hs, ht, hp]
    · intro h
      rw [minify, minify, h]

/-- The theorem at a count with leading zeros, in front of a digit that is
comment: written out, the count is followed by a loop. -/
theorem rendering_inverts_compile_count :
    ∃ p, compile "(+)*0070 7[-]" = .ok p ∧ p.validate = .ok () ∧
      compile "(+)*70[-]" = .ok p ∧ minify "(+)*70[-]" = .ok "(+)*70[-]" ∧
      minify "(+)*0070 7[-]" = minify "(+)*70[-]" := by
  obtain ⟨p, hcompile, hrender⟩ : ∃ p, compile "(+)*0070 7[-]" = .ok p ∧
      p.render = "(+)*70[-]" :=
    ⟨#[.linked .repeatStart 2, .plain .increment, .repeatEnd 0 70,
      .linked .whileStart 5, .plain .decrement, .linked .whileEnd 3],
      by cbv, by cbv⟩
  obtain ⟨himage, hcheck, hidem, hsame⟩ := rendering_inverts_compile
  obtain ⟨hvalid, hback⟩ := hcheck p ((himage p).mp ⟨_, hcompile⟩)
  rw [hrender] at hback
  obtain ⟨u, hu, hu'⟩ := hidem _ p hcompile
  obtain ⟨q, hq, rfl⟩ := minify_eq_ok_iff.mp hu
  cases hcompile.symm.trans hq
  rw [hrender] at hu'
  exact ⟨p, hcompile, hvalid, hback, hu',
    (hsame _ _ p p hcompile hback).mpr (hcompile.trans hback.symm)⟩

end TapeDuel
