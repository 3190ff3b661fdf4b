import TapeDuel.Proofs.ProgramCodec

/-!
# Damaged programs are noticed

An item says itself where it ends: every head has the number of bytes or of items that
follow it, or announces a break. So the reader never looks behind the end of the item
that it reads. What stands there is handed on untouched, and it may as well be longer
(`ReadsOn`, `read_append`). From this one fact follow both kinds of damage. With
something behind it a stored program is still read, and the rest is noticed. Cut
short, it is no item at all: if a reader could do with the front, it would leave the
part that was cut off when it is given the whole, and of a stored program nothing is
left.

More bytes are more fuel. The statements therefore allow any larger fuel for the
longer text, and the walk through the mutual recursion of the reader does not
notice.
-/

namespace TapeDuel.Binary

/-! ## Reading on -/

/-- What has been read by `x` has been read by `y` too, which leaves `more` behind it. -/
def ReadsOn {α : Type} (more : Text) (x y : Option (α × Text)) : Prop :=
  ∀ a rest, x = some (a, rest) → y = some (a, rest ++ more)

namespace ReadsOn

variable {α : Type} {more : Text} {x x' y y' : Option (α × Text)}

theorem none (y : Option (α × Text)) : ReadsOn more .none y :=
  nofun

theorem some (a : α) (rest : Text) :
    ReadsOn more (.some (a, rest)) (.some (a, rest ++ more)) := by
  rintro _ _ ⟨⟩
  rfl

theorem ite {c : Prop} [Decidable c] (hthen : ReadsOn more x y)
    (helse : ReadsOn more x' y') :
    ReadsOn more (if c then x else x') (if c then y else y') := by
  by_cases hc : c
  · rw [if_pos hc, if_pos hc]
    exact hthen
  · rw [if_neg hc, if_neg hc]
    exact helse

/-- Where one reader follows another, either the first has read nothing, or it has read
the same twice. -/
theorem cases (h : ReadsOn more x y) :
    x = .none ∨ ∃ a rest, x = .some (a, rest) ∧ y = .some (a, rest ++ more) := by
  cases hx : x with
  | none => exact .inl rfl
  | some p => exact .inr ⟨p.1, p.2, rfl, h p.1 p.2 hx⟩

end ReadsOn

/-! ## Heads and strings -/

theorem readNumber_append (width acc : Nat) (t more : Text) :
    ReadsOn more (readNumber width acc t) (readNumber width acc (t ++ more)) := by
  induction width generalizing acc t with
  | zero => exact .some _ _
  | succ width ih =>
      cases t with
      | nil => exact .none _
      | cons b t => exact ih _ _

theorem wide_append (major info width : Nat) (t more : Text) :
    ReadsOn more
      (match readNumber width 0 t with
        | none => none
        | some (value, rest) => some ((⟨major, info, value⟩ : Head), rest))
      (match readNumber width 0 (t ++ more) with
        | none => none
        | some (value, rest) => some ((⟨major, info, value⟩ : Head), rest)) := by
  obtain hread | ⟨value, rest, hread, hread'⟩ := (readNumber_append width 0 t more).cases
  · rw [hread]
    exact .none _
  · rw [hread, hread']
    exact .some _ _

theorem readHead_append (t more : Text) :
    ReadsOn more (readHead t) (readHead (t ++ more)) := by
  cases t with
  | nil => exact .none _
  | cons b t =>
      rw [List.cons_append, readHead, readHead]
      refine .ite (.some _ _) <| .ite ?_ <| .ite (wide_append _ _ 2 t more) <|
        .ite (wide_append _ _ 4 t more) <| .ite (wide_append _ _ 8 t more) <|
        .ite (.ite (.none _) (.some _ _)) (.none _)
      -- One byte more: there the simple values may not be written that have a short
      -- head.
      obtain hread | ⟨value, rest, hread, hread'⟩ := (readNumber_append 1 0 t more).cases
      · simp only [hread]
        exact .none _
      · simp only [hread, hread']
        exact .ite (.none _) (.some _ _)

theorem takeBytes_append (length : Nat) (t more : Text) :
    ReadsOn more (takeBytes length t) (takeBytes length (t ++ more)) := by
  intro chunk rest h
  rw [takeBytes] at h ⊢
  split at h
  · cases h
  · next hlength =>
      cases h
      have hle : length ≤ t.length := by omega
      rw [if_neg (by rw [List.length_append]; omega), List.take_append_of_le_length hle,
        List.drop_append_of_le_length hle]

theorem readChunks_append (major : Nat) {fuel fuel' : Nat} (hle : fuel ≤ fuel')
    (acc t more : Text) :
    ReadsOn more (readChunks major fuel acc t)
      (readChunks major fuel' acc (t ++ more)) := by
  induction fuel generalizing fuel' acc t with
  | zero => exact .none _
  | succ fuel ih =>
      obtain ⟨fuel', rfl⟩ : ∃ n, fuel' = n + 1 := ⟨fuel' - 1, by omega⟩
      cases t with
      | nil => exact .none _
      | cons b t =>
          rw [List.cons_append, readChunks, readChunks, ← List.cons_append]
          refine .ite (.some _ _) ?_
          obtain hhead | ⟨head, behind, hhead, hhead'⟩ :=
            (readHead_append (b :: t) more).cases
          · rw [hhead]
            exact .none _
          rw [hhead, hhead']
          refine .ite (.none _) ?_
          obtain hchunk | ⟨chunk, behind, hchunk, hchunk'⟩ :=
            (takeBytes_append head.value behind more).cases
          · rw [hchunk]
            exact .none _
          rw [hchunk, hchunk']
          exact ih (by omega) _ _

/-! ## Items -/

theorem startsTagged_append {t : Text} (h : t ≠ []) (more : Text) :
    startsTagged (t ++ more) = startsTagged t := by
  cases t with
  | nil => exact absurd rfl h
  | cons b t => rfl

theorem readItem_nil (fuel depth : Nat) : readItem fuel depth [] = none := by
  cases fuel with
  | zero => rw [readItem]
  | succ fuel => rw [readItem, readHead]

mutual

theorem readItem_append {fuel fuel' : Nat} (hle : fuel ≤ fuel') (depth : Nat)
    (t more : Text) :
    ReadsOn more (readItem fuel depth t) (readItem fuel' depth (t ++ more)) := by
  match fuel, fuel' with
  | 0, _ =>
      rw [readItem]
      exact .none _
  | fuel + 1, 0 => exact absurd hle (by omega)
  | fuel + 1, fuel' + 1 =>
      have hle : fuel ≤ fuel' := by omega
      rw [readItem, readItem]
      obtain hhead | ⟨head, t, hhead, hhead'⟩ := (readHead_append t more).cases
      · rw [hhead]
        exact .none _
      rw [hhead, hhead']
      refine .ite (.some _ _) <| .ite (.some _ _) <| .ite ?string <|
        .ite ?collection <| .ite ?tagged <| .ite (.some _ _) (.some _ _)
      case string =>
        have hcontent : ReadsOn more
            (if head.info = indefinite then readChunks head.major fuel [] t
              else takeBytes head.value t)
            (if head.info = indefinite then readChunks head.major fuel' [] (t ++ more)
              else takeBytes head.value (t ++ more)) :=
          .ite (readChunks_append _ hle _ _ _) (takeBytes_append _ _ _)
        obtain hread | ⟨content, rest, hread, hread'⟩ := hcontent.cases
        · rw [hread]
          exact .none _
        · rw [hread, hread']
          exact .some _ _
      case collection =>
        refine .ite (.none _) <| .ite ?_ <| .ite (.none _) ?_
        · obtain hread | ⟨items, rest, hread, hread'⟩ :=
            (readUntilBreak_append hle (depth + 1) t more []).cases
          · rw [hread]
            exact .none _
          · rw [hread, hread']
            exact .ite (.none _) (.some _ _)
        · obtain hread | ⟨items, rest, hread, hread'⟩ :=
            (readItems_append hle (depth + 1) _ t more []).cases
          · rw [hread]
            exact .none _
          · rw [hread, hread']
            exact .some _ _
      case tagged =>
        cases t with
        | nil =>
            simp only [readItem_nil, ite_self]
            exact .none _
        | cons b t =>
            rw [startsTagged_append (List.cons_ne_nil b t)]
            refine .ite (.none _) ?_
            obtain hread | ⟨content, rest, hread, hread'⟩ :=
              (readItem_append hle _ (b :: t) more).cases
            · rw [hread]
              exact .none _
            · rw [hread, hread']
              exact .some _ _

theorem readItems_append {fuel fuel' : Nat} (hle : fuel ≤ fuel') (depth count : Nat)
    (t more : Text) (acc : List Item) :
    ReadsOn more (readItems fuel depth count t acc)
      (readItems fuel' depth count (t ++ more) acc) := by
  match fuel, fuel', count with
  | 0, _, _ =>
      rw [readItems]
      exact .none _
  | fuel + 1, 0, _ => exact absurd hle (by omega)
  | fuel + 1, fuel' + 1, 0 =>
      rw [readItems, readItems]
      exact .some _ _
  | fuel + 1, fuel' + 1, count + 1 =>
      have hle : fuel ≤ fuel' := by omega
      rw [readItems, readItems]
      obtain hread | ⟨item, rest, hread, hread'⟩ :=
        (readItem_append hle depth t more).cases
      · rw [hread]
        exact .none _
      · rw [hread, hread']
        exact readItems_append hle depth count rest more _

theorem readUntilBreak_append {fuel fuel' : Nat} (hle : fuel ≤ fuel') (depth : Nat)
    (t more : Text) (acc : List Item) :
    ReadsOn more (readUntilBreak fuel depth t acc)
      (readUntilBreak fuel' depth (t ++ more) acc) := by
  match fuel, fuel', t with
  | 0, _, _ =>
      rw [readUntilBreak]
      exact .none _
  | fuel + 1, 0, _ => exact absurd hle (by omega)
  | fuel + 1, fuel' + 1, [] =>
      rw [readUntilBreak]
      exact .none _
  | fuel + 1, fuel' + 1, b :: t =>
      have hle : fuel ≤ fuel' := by omega
      rw [List.cons_append, readUntilBreak, readUntilBreak, ← List.cons_append]
      refine .ite (.some _ _) ?_
      obtain hread | ⟨item, rest, hread, hread'⟩ :=
        (readItem_append hle depth (b :: t) more).cases
      · rw [hread]
        exact .none _
      · rw [hread, hread']
        exact readUntilBreak_append hle depth rest more _

end

/-- An item is read the same whatever stands behind it. -/
theorem read_append {t rest : Text} {item : Item} (h : read t = some (item, rest))
    (more : Text) : read (t ++ more) = some (item, rest ++ more) :=
  readItem_append (by rw [List.length_append]; omega) 0 t more item rest h

/-- The front of an item is none. -/
theorem read_eq_none_of_append {t more : Text} {item : Item}
    (h : read (t ++ more) = some (item, [])) (hmore : more ≠ []) : read t = none := by
  cases hread : read t with
  | none => rfl
  | some p =>
      obtain ⟨front, rest⟩ := p
      rw [read_append hread more] at h
      have hrest : rest ++ more = [] := (Prod.mk.inj (Option.some.inj h)).2
      exact absurd (List.append_eq_nil_iff.mp hrest).2 hmore

/-! ## Programs -/

section Program

variable {p : Program}

theorem readProgram_cut (hfits : ∀ i ∈ p.toList, Fits i) (hsize : p.size ≤ maxElements)
    {t more : Text} (hcut : t ++ more = writeProgram p) (hmore : more ≠ []) :
    readProgram t = .error (.corrupt .malformed) := by
  have hnone : read t = none :=
    read_eq_none_of_append (by rw [hcut]; exact read_writeProgram hsize hfits) hmore
  rw [readProgram, hnone]

theorem readProgram_extended (hfits : ∀ i ∈ p.toList, Fits i)
    (hsize : p.size ≤ maxElements) {more : Text} (hmore : more ≠ []) :
    readProgram (writeProgram p ++ more) = .error (.corrupt .extraneous) := by
  have hread := read_append (read_writeProgram hsize hfits) more
  rw [List.nil_append] at hread
  rw [readProgram, hread]
  exact if_pos hmore

/-- A stored program of a length that can be read is not mistaken for another one when
it is damaged at its end. Whatever its operations and operands are, each proper front
of it is malformed, also the empty one and those that are cut inside of a number or
between two items; and with anything behind it, be it one byte or another program, the
rest is extraneous. So of all texts that it begins or that begin it, only its own is
read as a program. -/
theorem damaged_programs_are_noticed (hfits : ∀ i ∈ p.toList, Fits i)
    (hsize : p.size ≤ maxElements) :
    (∀ t, t <+: writeProgram p → t ≠ writeProgram p →
      readProgram t = .error (.corrupt .malformed)) ∧
    (∀ more, more ≠ [] →
      readProgram (writeProgram p ++ more) = .error (.corrupt .extraneous)) ∧
    ∀ t q, t <+: writeProgram p ∨ writeProgram p <+: t → readProgram t = .ok q →
      t = writeProgram p := by
  have hfront : ∀ t, t <+: writeProgram p → t ≠ writeProgram p →
      readProgram t = .error (.corrupt .malformed) := by
    rintro t ⟨more, hcut⟩ hne
    refine readProgram_cut hfits hsize hcut ?_
    rintro rfl
    exact hne (by rw [← hcut, List.append_nil])
  refine ⟨hfront, fun more hmore => readProgram_extended hfits hsize hmore,
    fun t q hnear hread => ?_⟩
  by_contra hne
  rcases hnear with hcut | ⟨more, rfl⟩
  · rw [hfront t hcut hne] at hread
    cases hread
  · have hmore : more ≠ [] := by
      rintro rfl
      exact hne (List.append_nil _)
    rw [readProgram_extended hfits hsize hmore] at hread
    cases hread

/-- The theorem at an instruction with both ends of the 64-bit numbers as its operands:
cut inside of the second operand, and followed by another program. -/
theorem damaged_programs_are_noticed_inside_number :
    (∀ i ∈ (#[⟨.repeatEnd, -2 ^ 63, 2 ^ 63 - 1⟩] : Program).toList, Fits i) ∧
      readProgram ((writeProgram #[⟨.repeatEnd, -2 ^ 63, 2 ^ 63 - 1⟩]).take 15) =
        .error (.corrupt .malformed) ∧
      readProgram (writeProgram #[⟨.repeatEnd, -2 ^ 63, 2 ^ 63 - 1⟩]
        ++ writeProgram #[]) =
        .error (.corrupt .extraneous) := by
  have hfits : ∀ i ∈ (#[⟨.repeatEnd, -2 ^ 63, 2 ^ 63 - 1⟩] : Program).toList,
      Fits i := by
    simp [Fits, fits64]
  obtain ⟨hcut, hextended, -⟩ := damaged_programs_are_noticed hfits (by decide)
  exact ⟨hfits, hcut _ (List.take_prefix _ _) (by decide), hextended _ (by decide)⟩

end Program

end TapeDuel.Binary
