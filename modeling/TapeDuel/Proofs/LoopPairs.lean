import Mathlib
import TapeDuel.Proofs.Layout

/-!
# The pairs of a checked program

The check of a stored program looks at one place after the other and stops at
the first flaw. What it lets through is a pairing of all loop instructions:
`Pairs` says that the targets send each of them to the other end of its loop,
forth from a start and back from an end. So the ends of a kind are as many as
its starts, though nobody counts them.

The pairing is also all that the check asks for, besides operations that are
known and counts that are not negative. Nothing is said about nesting: two loops
of a checked program may cross.
-/

namespace TapeDuel

namespace Op

theorem partner?_comm {op close : Op} (h : op.partner? = some close) :
    close.partner? = some op := by
  cases op <;> cases h <;> rfl

/-- No operation is its own partner. -/
theorem partner?_ne_self (op : Op) : op.partner? ≠ some op := by
  cases op <;> simp [partner?]

end Op

namespace Program

/-- The places of the loop instructions. -/
abbrev LoopPlace (p : Program) : Type :=
  {k : Fin p.size // p[k].op.partner?.isSome}

/-- No operation of the program is unknown. -/
def Known (p : Program) : Prop :=
  ∀ i ∈ p, ∀ code unassigned, i.op ≠ .unknown code unassigned

/-- The targets pair the loop instructions, each start with a later end of its
kind. -/
structure Pairs (p : Program) (mate : p.LoopPlace → p.LoopPlace) : Prop where
  target : ∀ k, p[k.1].target = ((mate k).1 : Nat)
  involutive : Function.Involutive mate
  ne_self : ∀ k, mate k ≠ k
  kind : ∀ k, p[k.1].op.partner? = some p[(mate k).1].op
  forth : ∀ k, p[k.1].op.opensLoop = true → k.1 < (mate k).1
  back : ∀ k, p[k.1].op.opensLoop = false → (mate k).1 < k.1

/-! ## From the check to the pairs -/

section Checked

variable {p : Program}

theorem known_of_validate (hv : p.validate = .ok ()) : p.Known := by
  intro i hi code unassigned hop
  obtain ⟨k, hk⟩ := Array.mem_iff_getElem?.mp hi
  have hflaw := validate_eq_ok_iff.mp hv k i hk
  rw [instructionFlaw?, hop] at hflaw
  cases hflaw

theorem iterations_nonneg_of_validate (hv : p.validate = .ok ()) {i : Instruction}
    (hi : i ∈ p) (hop : i.op = .repeatEnd) : 0 ≤ i.iterations := by
  obtain ⟨k, hk⟩ := Array.mem_iff_getElem?.mp hi
  obtain ⟨_, _, -, -, -, -, -, hpos⟩ :=
    exists_partner hv hk (show i.op.partner? = some .repeatStart by rw [hop]; rfl)
  exact hpos hop

/-- A loop instruction of a checked program and the one that it names. -/
theorem exists_mate (hv : p.validate = .ok ()) (k : p.LoopPlace) :
    ∃ m : p.LoopPlace, p[k.1].target = (m.1 : Nat) ∧ p[m.1].target = (k.1 : Nat) ∧
      p[k.1].op.partner? = some p[m.1].op ∧ p[k.1].op.opensLoop =
        decide (k.1 < m.1) := by
  obtain ⟨op, hop⟩ := Option.isSome_iff_exists.mp k.2
  obtain ⟨t, j, ht, hj, hjop, hback, hway, -⟩ :=
    exists_partner hv (Array.getElem?_eq_getElem k.1.2) hop
  obtain ⟨hlt, hat⟩ := Array.getElem?_eq_some_iff.mp hj
  subst hat
  have hpartner : p[t].op.partner? = some p[k.1].op := by
    rw [hjop]
    exact Op.partner?_comm hop
  exact ⟨⟨⟨t, hlt⟩, Option.isSome_of_eq_some hpartner⟩, ht, hback,
    hop.trans (congrArg some hjop.symm), hway⟩

theorem exists_pairs (hv : p.validate = .ok ()) : ∃ mate, p.Pairs mate := by
  choose mate htarget hback hkind hway using exists_mate hv
  have hne : ∀ k, (mate k).1 ≠ k.1 := by
    intro k heq
    have hop : p[(mate k).1].op = p[k.1].op :=
      congrArg (fun m : Fin p.size => p[m].op) heq
    exact Op.partner?_ne_self _ (hop ▸ hkind k)
  refine ⟨mate, htarget, fun k => ?_, fun k heq => ?_, hkind, fun k hopens => ?_,
    fun k hcloses => ?_⟩
  · have h := htarget (mate k)
    rw [hback k] at h
    exact Subtype.ext (Fin.ext (Int.ofNat.inj h).symm)
  · exact hne k (congrArg Subtype.val heq)
  · exact of_decide_eq_true ((hway k).symm.trans hopens)
  · have hle := of_decide_eq_false ((hway k).symm.trans hcloses)
    exact lt_of_le_of_ne (Fin.not_lt.mp hle) (hne k)

end Checked

/-! ## From the pairs to the check -/

section Pairs

variable {p : Program} {mate : p.LoopPlace → p.LoopPlace}

theorem Pairs.validate (h : p.Pairs mate) (hknown : p.Known)
    (hpos : ∀ i ∈ p, i.op = .repeatEnd → 0 ≤ i.iterations) : p.validate = .ok () := by
  refine validate_eq_ok_iff.mpr fun k i hi => ?_
  obtain ⟨hk, rfl⟩ := Array.getElem?_eq_some_iff.mp hi
  have hmem : p[k] ∈ p := Array.getElem_mem hk
  cases hpartner : p[k].op.partner? with
  | none =>
      rw [instructionFlaw?]
      split
      · next code unassigned hop => exact absurd hop (hknown _ hmem code unassigned)
      · rw [hpartner]
  | some op =>
      let place : p.LoopPlace := ⟨⟨k, hk⟩, by simp [hpartner]⟩
      have hat : p[((mate place).1 : Nat)]? = some p[(mate place).1] :=
        Array.getElem?_eq_getElem (mate place).1.2
      have hback : p[(mate place).1].target = (k : Nat) := by
        have htarget := h.target (mate place)
        rw [h.involutive place] at htarget
        exact htarget
      refine instructionFlaw?_eq_none (h.kind place) (h.target place) hat hback ?_
        (hpos _ hmem)
      cases hway : p[k].op.opensLoop with
      | true => exact (decide_eq_true (h.forth place hway)).symm
      | false => exact (decide_eq_false (Nat.not_lt_of_lt (h.back place hway))).symm

/-! ## As many ends as starts -/

/-- The instructions with an operation, counted by their places. -/
theorem countOp_eq_card (p : Program) (op : Op) :
    p.countOp op = Fintype.card {k : Fin p.size // p[k].op = op} := by
  have hplaces : p.toList = (List.finRange p.size).map fun k => p[k] := by
    refine List.ext_getElem (by simp) fun n hn hn' => ?_
    simp
  rw [countOp, ← Array.countP_toList, hplaces, List.countP_map,
    List.countP_eq_length_filter, Fintype.card_subtype, Fin.univ_def]
  rfl

/-- A loop opens with an operation just when it closes with the other one. -/
theorem Pairs.op_eq_iff (h : p.Pairs mate) {op close : Op}
    (hop : op.partner? = some close) (k : p.LoopPlace) :
    p[k.1].op = op ↔ p[(mate k).1].op = close := by
  have hkind := h.kind k
  constructor
  · intro hk
    rw [hk, hop] at hkind
    exact (Option.some.inj hkind).symm
  · intro hk
    rw [hk] at hkind
    have hback := Op.partner?_comm hkind
    rw [Op.partner?_comm hop] at hback
    exact (Option.some.inj hback).symm

/-- The two operations at the ends of a kind of loops are equally many. -/
theorem Pairs.countOp_eq (h : p.Pairs mate) {op close : Op}
    (hop : op.partner? = some close) : p.countOp op = p.countOp close := by
  have hplace : ∀ {op close : Op} (_ : op.partner? = some close) {k : Fin p.size},
      p[k].op = op → p[k].op.partner?.isSome := by
    intro op close hop k hk
    rw [hk, hop]
    rfl
  calc p.countOp op
      = Fintype.card {k : Fin p.size // p[k].op = op} := p.countOp_eq_card op
    _ = Fintype.card {k : p.LoopPlace // p[k.1].op = op} :=
      Fintype.card_congr (Equiv.subtypeSubtypeEquivSubtype (hplace hop)).symm
    _ = Fintype.card {k : p.LoopPlace // p[k.1].op = close} :=
      Fintype.card_congr (h.involutive.toPerm.subtypeEquiv (h.op_eq_iff hop))
    _ = Fintype.card {k : Fin p.size // p[k].op = close} :=
      Fintype.card_congr
        (Equiv.subtypeSubtypeEquivSubtype (hplace (Op.partner?_comm hop)))
    _ = p.countOp close := (p.countOp_eq_card close).symm

end Pairs

/-- The check accepts just the programs of known operations in which the targets
pair the loop instructions and no count is negative, and in these each kind of
loops has as many ends as starts. -/
theorem validate_iff_pairs (p : Program) :
    (p.validate = .ok () ↔ p.Known ∧ (∃ mate, p.Pairs mate) ∧
      ∀ i ∈ p, i.op = .repeatEnd → 0 ≤ i.iterations) ∧
    (p.validate = .ok () → p.countOp .whileStart = p.countOp .whileEnd ∧
      p.countOp .repeatStart = p.countOp .repeatEnd) := by
  refine ⟨⟨fun hv => ?_, ?_⟩, fun hv => ?_⟩
  · exact ⟨known_of_validate hv, exists_pairs hv,
      fun i hi hop => iterations_nonneg_of_validate hv hi hop⟩
  · rintro ⟨hknown, ⟨mate, h⟩, hpos⟩
    exact h.validate hknown hpos
  · obtain ⟨mate, h⟩ := exists_pairs hv
    exact ⟨h.countOp_eq rfl, h.countOp_eq rfl⟩

/-- The theorem at two loops that cross: they are paired all the same, and the
count of a start is not looked at. -/
theorem validate_iff_pairs_crossing :
    ∃ p : Program, p.validate = .ok () ∧ ¬ p.CountsNest ∧ (∃ mate, p.Pairs mate) ∧
      p.countOp .repeatStart = p.countOp .repeatEnd := by
  have hv : Program.validate #[⟨.whileStart, 2, 0⟩, ⟨.repeatStart, 3, -1⟩,
      ⟨.whileEnd, 0, 0⟩, ⟨.repeatEnd, 1, 5⟩] = .ok () := by decide
  exact ⟨_, hv, by decide, ((validate_iff_pairs _).1.mp hv).2.1,
    ((validate_iff_pairs _).2 hv).2⟩

end Program

end TapeDuel
