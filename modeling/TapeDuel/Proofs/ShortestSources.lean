import TapeDuel.Proofs.Rendering

/-!
# The shortest source of a program

A program is written out without a byte to spare. Every instruction costs at least the
byte that stands for it, and those bytes are there in any source of the program. The
end of a counted loop costs a star and a numeral besides, and in a source they stand
right behind the bracket, where no other loop can use them.

So a source is the rendering with comment in between and zeros in front of its counts,
and it is longer by just that. `NoLongerThan` says it of two texts in a form that goes
through the parts: the first is shorter, or they are the same.
-/

namespace TapeDuel

namespace Text

/-- The text is shorter than the other one, or it is the other one. -/
def NoLongerThan (t u : Text) : Prop :=
  t.length < u.length ∨ t = u

theorem NoLongerThan.length_le {t u : Text} (h : NoLongerThan t u) :
    t.length ≤ u.length := by
  rcases h with hlt | rfl
  · exact Nat.le_of_lt hlt
  · exact Nat.le_refl _

theorem NoLongerThan.append {t t' u u' : Text} (h : NoLongerThan t u)
    (h' : NoLongerThan t' u') : NoLongerThan (t ++ t') (u ++ u') := by
  rw [NoLongerThan, List.length_append, List.length_append]
  rcases h with hlt | rfl
  · have hle := h'.length_le
    left
    omega
  · rcases h' with hlt' | rfl
    · left
      omega
    · exact .inr rfl

/-- What is no longer stays so behind the same bytes. -/
theorem NoLongerThan.prepend {t u : Text} (h : NoLongerThan t u) (front : Text) :
    NoLongerThan (front ++ t) (front ++ u) :=
  NoLongerThan.append (.inr rfl) h

theorem NoLongerThan.comment {t u : Text} (h : NoLongerThan t u) (b : UInt8) :
    NoLongerThan t (b :: u) := by
  have hshort : NoLongerThan [] [b] := .inl Nat.zero_lt_one
  exact hshort.append h

end Text

open Text

/-! ## Counts -/

namespace Decimal

/-- The numeral of a value is the shortest run of digits that has it. -/
theorem write_read_noLongerThan {run : Text} (hne : run ≠ [])
    (hdigits : ∀ b ∈ run, isDigit b = true) : NoLongerThan (write (read run)) run := by
  induction run using List.reverseRecOn with
  | nil => exact absurd rfl hne
  | append_singleton run b ih =>
      rw [List.forall_mem_append, List.forall_mem_singleton] at hdigits
      have hb := sub_lt_of_isDigit hdigits.2
      have hread : read (run ++ [b]) = 10 * read run + (b.toNat - 48) := by
        rw [← read_append_digit run hb, digit_sub hdigits.2]
      by_cases hsmall : read (run ++ [b]) < 10
      · rw [write, if_pos hsmall]
        cases run with
        | nil =>
            -- The only digit is written as it stands.
            right
            rw [hread, show read [] = 0 from rfl, Nat.mul_zero, Nat.zero_add,
              digit_sub hdigits.2]
            rfl
        | cons zero zeros =>
            left
            rw [List.length_append]
            exact Nat.lt_add_of_pos_left (Nat.succ_pos _)
      · have hne' : run ≠ [] := by
          rintro rfl
          rw [hread, show read [] = 0 from rfl] at hsmall
          omega
        have hdiv : read (run ++ [b]) / 10 = read run := by omega
        have hmod : read (run ++ [b]) % 10 = b.toNat - 48 := by omega
        rw [write, if_neg hsmall, hdiv, hmod, digit_sub hdigits.2]
        exact (ih hne' hdigits.1).append (.inr rfl)

end Decimal

/-! ## Sources -/

section Render

variable {b : UInt8} {i : Instruction} {code : List Instruction}

/-- An instruction is written as the byte that stands for it, if it is not the end of a
counted loop. -/
theorem render_of_ofByte? (h : Op.ofByte? b = some i.op) (hop : i.op ≠ .repeatEnd) :
    i.render = [b] := by
  simp only [Op.ofByte?] at h
  rw [Instruction.render]
  grind

theorem render_repeatEnd {n : Nat} (h : i.sign = ⟨.repeatEnd, n⟩) :
    i.render = byte ')' :: byte '*' :: Decimal.write n := by
  have hop : i.op = .repeatEnd := congrArg Sign.op h
  have hcount : i.iterations = n := congrArg Sign.iterations h
  rw [Instruction.render, hop]
  dsimp only
  rw [hcount, Decimal.writeInt_natCast]

/-- No text that says what the code says is shorter than the code written out. -/
theorem render_noLongerThan {t : Text}
    (h : t.signs? = some (code.map Instruction.sign)) :
    NoLongerThan (code.flatMap Instruction.render) t := by
  -- A count takes more than one byte, so the induction is on the length.
  induction hlength : t.length using Nat.strongRecOn generalizing t code with
  | _ length ih =>
      subst hlength
      cases t with
      | nil =>
          have hnone : code = [] := List.map_eq_nil_iff.mp (Option.some.inj h).symm
          rw [hnone]
          exact .inr rfl
      | cons b rest =>
          rcases signs?_cons h with ⟨-, hrest⟩ |
            ⟨op, iterations, tail, hop, hrest, hcode, hcount⟩
          · exact (ih _ (Nat.lt_succ_self _) hrest rfl).comment b
          · obtain ⟨i, code, rfl, hi, rfl⟩ := List.map_eq_cons_iff.mp hcode
            have hiop : i.op = op := congrArg Sign.op hi
            rw [List.flatMap_cons]
            by_cases hend : op = .repeatEnd
            · subst hend
              obtain rfl := Op.eq_of_ofByte?_repeatEnd hop
              rw [if_pos rfl] at hcount
              obtain ⟨n, hn, rfl⟩ := hcount
              obtain ⟨run, tail, rfl, hne, hdigits, -, rfl, -⟩ :=
                count?_eq_some_iff.mp hn
              -- The star and the digits are comment, and behind them the text goes on.
              have hcomment : ∀ c ∈ run, Op.ofByte? c = none :=
                fun c hc => Op.ofByte?_of_isDigit (hdigits c hc)
              rw [signs?_comment (by decide), signs?_append hcomment] at hrest
              have hlt : tail.length <
                  (byte ')' :: byte '*' :: (run ++ tail)).length := by
                rw [List.length_cons, List.length_cons, List.length_append]
                omega
              have hnumeral := Decimal.write_read_noLongerThan hne hdigits
              have hboth := hnumeral.append (ih _ hlt hrest rfl)
              rw [render_repeatEnd hi]
              exact hboth.prepend [byte ')', byte '*']
            · have hplain : i.op ≠ .repeatEnd := hiop ▸ hend
              rw [render_of_ofByte? (hiop ▸ hop) hplain]
              exact (ih _ (Nat.lt_succ_self _) hrest rfl).prepend [b]

end Render

/-- A program that a text compiles to is written out to its shortest source: that one
compiles to the program, is no longer than the text, and as long only if it is the
text. -/
theorem rendering_is_the_shortest_source {t : Text} {p : Program}
    (h : compile t = .ok p) :
    compile p.render = .ok p ∧ p.render.length ≤ t.length ∧
      (p.render.length = t.length → t = p.render) := by
  have hshort : NoLongerThan p.render t := render_noLongerThan (signs_of_compile h)
  refine ⟨(canonical_of_compile h).compile_render, hshort.length_le, ?_⟩
  intro hlength
  rcases hshort with hlt | heq
  · exact absurd hlength (Nat.ne_of_lt hlt)
  · exact heq.symm

/-- The theorem at a text with a broken rune, zeros in front of its count and a digit
behind it that is comment: it is five bytes longer than it has to be. -/
theorem rendering_is_the_shortest_source_zeros :
    ∃ p, compile (0xE2 :: ("(+)*007 7" : Text)) = .ok p ∧ p.render = "(+)*7" ∧
      compile "(+)*7" = .ok p ∧
      List.length ("(+)*7" : Text) ≤ List.length (0xE2 :: ("(+)*007 7" : Text)) := by
  have hcompile : compile (0xE2 :: ("(+)*007 7" : Text)) =
      .ok #[.linked .repeatStart 2, .plain .increment, .repeatEnd 0 7] := by cbv
  have hrender : Program.render
      #[.linked .repeatStart 2, .plain .increment, .repeatEnd 0 7] = "(+)*7" := by cbv
  obtain ⟨hback, hlength, -⟩ := rendering_is_the_shortest_source hcompile
  rw [hrender] at hback hlength
  exact ⟨_, hcompile, hrender, hback, hlength⟩

end TapeDuel
