import Mathlib
import TapeDuel.Config.Evaluate
import TapeDuel.Proofs.ReadableTexts

/-!
# The fields of described settings

The tokens of a described setting make one declaration (`readDeclaration_line`), whose
expression is a scalar, perhaps with a sign. There are no names in it that would have
to be found (`resolve_declare`), so it has its value wherever it stands
(`value?_expr`). With every declaration the struct of the file grows by one field, as
long as the names differ (`addTo?_declare`). What the file says in the end is the
struct of all settings, if each of them could be read, and otherwise nothing
(`valueOf?_describe`).
-/

namespace TapeDuel

namespace Config

open Text (byte)

/-! ## Declarations -/

namespace Setting

/-- The value as it is read. -/
def expr : Setting → Expr
  | int i =>
      if i < 0 then .sign .minus (.scalar (.int i.natAbs)) else .scalar (.int i.natAbs)
  | text t => .scalar (.string t)

/-- The value as a scalar. -/
def scalar : Setting → Scalar
  | int i => .int i
  | text t => .string t

end Setting

/-- The declaration that a line makes. -/
def declare : Text × Setting → Declaration
  | (name, value) => .field ⟨name, .regular⟩ true .present value.expr

section Read

variable {name : Text} {value : Setting} {settings : List (Text × Setting)}

theorem Label.ofName_eq (h : isFieldName name = true) :
    Label.ofName name = ⟨name, .regular⟩ := by
  obtain ⟨b, tail, rfl, hb⟩ := Token.exists_opensName h
  have hunderscore : b ≠ byte '_' := Token.ne_of_opensName hb (by decide)
  have hhash : b ≠ byte '#' := Token.ne_of_opensName hb (by decide)
  rw [Label.ofName, if_neg hunderscore, if_neg hhash]

theorem takeLabel_name (h : isFieldName name = true) (rest : Tokens) :
    takeLabel (.name name :: .ofMark ":" :: rest) =
      some (⟨name, .regular⟩, true, .present, rest) := by
  have hanything : name ≠ Text.ofString "_" := by
    obtain ⟨b, tail, rfl, hb⟩ := Token.exists_opensName h
    have hsign : Text.ofString "_" = [byte '_'] := by cbv
    rw [hsign]
    rintro hname
    exact Token.ne_of_opensName hb (by decide) (List.cons.inj hname).1
  have hcolon : takeColon (.ofMark ":" :: rest) = some (.present, rest) := by
    rw [Token.ofMark, takeColon, if_pos rfl]
  rw [takeLabel, if_neg hanything, hcolon, Label.ofName_eq h]
  rfl

/-- The value of a setting, up to the end of its line. -/
theorem readField_tokens (fuel : Nat) (rest : Tokens) :
    readField (fuel + 8) (value.tokens ++ .lineEnd :: rest) =
      some (value.expr, .lineEnd :: rest) := by
  cases value with
  | int i =>
      by_cases hi : i < 0
      · have hminus : signOf? (Text.ofString "-") = some .minus := by cbv
        have hsigned : readSigned (fuel + 5)
            (.ofMark "-" :: .scalar (.int i.natAbs) :: .lineEnd :: rest) =
              some (.sign .minus (.scalar (.int i.natAbs)), .lineEnd :: rest) := by
          rw [Token.ofMark, readSigned, hminus]
          rfl
        have hexpr : readExpr (fuel + 7)
            (.ofMark "-" :: .scalar (.int i.natAbs) :: .lineEnd :: rest) =
              some (.sign .minus (.scalar (.int i.natAbs)), .lineEnd :: rest) := by
          rw [readExpr, readBinary, hsigned]
          rfl
        simp only [Setting.tokens, Setting.expr, hi, if_true]
        rw [List.cons_append, List.singleton_append, readField, hexpr]
        rfl
      · simp only [Setting.tokens, Setting.expr, hi, if_false]
        rfl
  | text t => rfl

theorem readDeclaration_line (h : isFieldName name = true) (fuel : Nat) (rest : Tokens) :
    readDeclaration (fuel + 9) (lineTokens (name, value) ++ rest) =
      some ([declare (name, value)], .lineEnd :: rest) := by
  have hline : lineTokens (name, value) ++ rest =
      .name name :: .ofMark ":" :: (value.tokens ++ .lineEnd :: rest) := by
    simp [lineTokens]
  rw [hline]
  simp only [readDeclaration, takeLabel_name h, readField_tokens, Option.map_some]
  rfl

theorem readDeclarations_lines (hnames : ∀ s ∈ settings, isFieldName s.1 = true)
    (fuel : Nat) :
    readDeclarations (settings.length + (fuel + 10)) false
      (settings.flatMap lineTokens) = some (settings.map declare, []) := by
  induction settings with
  | nil =>
      rw [List.length_nil, Nat.zero_add]
      rfl
  | cons s settings ih =>
      obtain ⟨name, value⟩ := s
      obtain ⟨hname, hnames⟩ := List.forall_mem_cons.mp hnames
      have hne : (lineTokens (name, value) ++ settings.flatMap lineTokens).isEmpty =
          false := rfl
      rw [List.length_cons, Nat.add_right_comm, List.flatMap_cons, readDeclarations]
      simp only [hne, Bool.false_and, Bool.not_false, Bool.true_and,
        Bool.false_eq_true, if_false]
      rw [show settings.length + (fuel + 10) = settings.length + fuel + 1 + 9 by omega,
        readDeclaration_line hname]
      dsimp only [afterEnd]
      rw [show settings.length + fuel + 1 + 9 = settings.length + (fuel + 10) by omega,
        ih hnames]
      rfl

/-- No file of settings begins with a package clause. -/
theorem afterPackage_lines (hnames : ∀ s ∈ settings, isFieldName s.1 = true) :
    afterPackage (settings.flatMap lineTokens) = some (settings.flatMap lineTokens) := by
  cases settings with
  | nil => rfl
  | cons s settings =>
      obtain ⟨name, value⟩ := s
      have hname := hnames _ List.mem_cons_self
      have hpackage : name ≠ Text.ofString "package" :=
        ne_of_mem_takenNames hname (by simp [takenNames])
      have himport : name ≠ Text.ofString "import" :=
        ne_of_mem_takenNames hname (by simp [takenNames])
      rw [List.flatMap_cons, lineTokens, List.cons_append, List.cons_append,
        List.cons_append]
      simp [afterPackage, hpackage, himport]

/-- Described settings are read as one declaration for each, if all values can be
read. -/
theorem declarations?_describe (hnames : ∀ s ∈ settings, isFieldName s.1 = true) :
    declarations? (describe settings) =
      if settings.all (·.2.isSpellable) then some (settings.map declare) else none := by
  rw [declarations?, Token.ofText_describe hnames]
  cases settings.all (·.2.isSpellable) with
  | false => rfl
  | true =>
      have hlength : settings.length ≤ (settings.flatMap lineTokens).length := by
        have :=
          List.length_le_sum_of_one_le (settings.map fun s => (lineTokens s).length)
          (List.forall_mem_map.mpr fun s _ => Nat.succ_pos _)
        rwa [List.length_map, ← List.length_flatMap] at this
      obtain ⟨fuel, hfuel⟩ : ∃ fuel, fuelFor (settings.flatMap lineTokens) =
          settings.length + (fuel + 10) :=
        ⟨fuelFor (settings.flatMap lineTokens) - settings.length - 10, by
          rw [fuelFor]
          omega⟩
      simp only [if_true, Option.bind_eq_bind, Option.bind_some,
        afterPackage_lines hnames, hfuel, readDeclarations_lines hnames]
      rfl

end Read

/-! ## Values -/

/-- The field that a setting becomes. -/
def fieldOf : Text × Setting → Label × Presence × Option Value
  | (name, value) => (⟨name, .regular⟩, .present, some (.scalar value.scalar))

section Values

variable {label : Label} {settings : List (Text × Setting)}

theorem resolveDeclaration_declare (fuel : Nat) (scopes : Scopes)
    (busy : List (Nat × Text)) (s : Text × Setting) :
    resolveDeclaration (fuel + 3) scopes busy (declare s) = some (declare s) := by
  obtain ⟨name, value⟩ := s
  cases value with
  | int i =>
      by_cases hi : i < 0
      · simp [declare, Setting.expr, hi, resolveDeclaration, resolve]
      · simp [declare, Setting.expr, hi, resolveDeclaration, resolve]
  | text t => simp [declare, Setting.expr, resolveDeclaration, resolve]

/-- The declarations name nothing that would have to be found. -/
theorem resolve_declare (fuel : Nat) :
    resolve (fuel + 4) [] [] (.struct (settings.map declare)) =
      some (.struct (settings.map declare)) := by
  have hall : (settings.map declare).mapM
      (resolveDeclaration (fuel + 3) [settings.map declare] []) =
        some (settings.map declare) := by
    rw [List.mapM_map]
    calc settings.mapM (fun s =>
          resolveDeclaration (fuel + 3) [settings.map declare] [] (declare s))
      _ = settings.mapM (fun s => pure (declare s)) := by
          simp only [resolveDeclaration_declare]
          rfl
      _ = some (settings.map declare) := List.mapM_pure
  rw [resolve, hall]
  rfl

theorem value?_expr (value : Setting) :
    value.expr.value? = some (.scalar value.scalar) := by
  cases value with
  | int i =>
      by_cases hi : i < 0
      · simp [Setting.expr, hi, Expr.value?, Value.operate, Value.settled, Sign.result?,
          Setting.scalar, abs_of_neg hi]
      · simp [Setting.expr, hi, Expr.value?, Setting.scalar, Int.not_lt.mp hi]
  | text t => simp [Setting.expr, Expr.value?, Setting.scalar]

theorem field?_eq_none (h : label.text ∉ settings.map Prod.fst) :
    Value.field? label (settings.map fieldOf) = none := by
  induction settings with
  | nil => rfl
  | cons s settings ih =>
      rw [List.map_cons, List.mem_cons, not_or] at h
      have hne : (fieldOf s).1 ≠ label := fun heq => h.1 (congrArg Label.text heq).symm
      rw [List.map_cons, Value.field?, if_neg hne, ih h.2]

/-- Fields that the other struct does not have stay as they are. -/
theorem meetFields?_fields {label : Label} {v : Option Value}
    (h : label.text ∉ settings.map Prod.fst) :
    Value.meetFields? (settings.map fieldOf) [(label, .present, v)] [] .plain =
      some (settings.map fieldOf) := by
  induction settings with
  | nil => simp [Value.meetFields?]
  | cons s settings ih =>
      obtain ⟨name, value⟩ := s
      rw [List.map_cons, List.mem_cons, not_or] at h
      have hne : label ≠ ⟨name, .regular⟩ := fun heq => h.1 (congrArg Label.text heq)
      rw [List.map_cons, fieldOf, Value.meetFields?, ih h.2]
      simp [Value.field?, hne, Value.admitsField]

/-- A struct of settings and one more field. -/
theorem meet?_fields (h : label.text ∉ settings.map Prod.fst) (v : Value) :
    Value.meet? (.struct (settings.map fieldOf) [] .plain)
        (.struct [(label, Presence.present, some v)] [] .plain) =
      some (.struct (settings.map fieldOf ++ [(label, Presence.present, some v)])
        [] .plain) := by
  have hvalued : Value.allValued (settings.map fieldOf
      ++ [(label, Presence.present, some v)]) = true := by
    rw [Value.allValued, List.all_append, Bool.and_eq_true]
    refine ⟨List.all_eq_true.mpr (List.forall_mem_map.mpr fun s _ => ?_), rfl⟩
    rfl
  simp [Value.meet?, Value.meetOptions, Value.options, meetFields?_fields h,
    field?_eq_none h, Value.admitsField, Value.applyPatterns?, hvalued,
    Value.meetExtent, Value.ofOptions?, Value.addOption, Value.hasMark]

theorem isDefinition_field {name : Text} (h : isFieldName name = true) :
    Label.isDefinition ⟨name, .regular⟩ = false := by
  obtain ⟨b, tail, rfl, hb⟩ := Token.exists_opensName h
  have hsigns : Text.ofString "_#" = [byte '_', byte '#'] := by cbv
  have hprefix : (Text.ofString "_#").isPrefixOf (b :: tail) = false := by
    rw [hsigns]
    exact Token.isPrefixOf_of_ne (Token.ne_of_opensName hb (by decide))
  rw [Label.isDefinition, hprefix]
  rfl

/-- A declaration adds its field behind the fields before it. -/
theorem addTo?_declare {s : Text × Setting} (hname : isFieldName s.1 = true)
    (hfresh : s.1 ∉ settings.map Prod.fst) :
    (declare s).addTo? ⟨.struct (settings.map fieldOf) [] .plain, []⟩ =
      some ⟨.struct ((settings ++ [s]).map fieldOf) [] .plain, []⟩ := by
  obtain ⟨name, value⟩ := s
  rw [declare, Declaration.addTo?, value?_expr]
  simp only [isDefinition_field hname, Bool.false_eq_true, if_false, Body.join?]
  rw [meet?_fields hfresh, List.map_append]
  rfl

theorem bodyOf?_declare (before : List (Text × Setting)) {after : List (Text × Setting)}
    (hnames : ∀ s ∈ after, isFieldName s.1 = true)
    (hdistinct : ((before ++ after).map Prod.fst).Nodup) :
    bodyOf? ⟨.struct (before.map fieldOf) [] .plain, []⟩ (after.map declare) =
      some ⟨.struct ((before ++ after).map fieldOf) [] .plain, []⟩ := by
  induction after generalizing before with
  | nil => rw [List.map_nil, bodyOf?, List.append_nil]
  | cons s after ih =>
      obtain ⟨hname, hnames⟩ := List.forall_mem_cons.mp hnames
      have hfresh : s.1 ∉ before.map Prod.fst := by
        rw [List.map_append, List.map_cons] at hdistinct
        exact fun hmem => List.disjoint_of_nodup_append hdistinct hmem List.mem_cons_self
      have hassoc : before ++ s :: after = (before ++ [s]) ++ after := by simp
      rw [hassoc] at hdistinct ⊢
      rw [List.map_cons, bodyOf?, addTo?_declare hname hfresh]
      exact ih _ hnames hdistinct

/-- Described settings say what was described, if all values can be read, and
otherwise the file says nothing that can be made out. -/
theorem valueOf?_describe (hnames : ∀ s ∈ settings, isFieldName s.1 = true)
    (hdistinct : (settings.map Prod.fst).Nodup) :
    valueOf? (describe settings) =
      if settings.all (·.2.isSpellable) then
        some (.struct (settings.map fieldOf) [] .plain)
      else none := by
  rw [valueOf?, declarations?_describe hnames]
  cases settings.all (·.2.isSpellable) with
  | false => rfl
  | true =>
      have hbody : bodyOf? .empty (settings.map declare) =
          some ⟨.struct (settings.map fieldOf) [] .plain, []⟩ :=
        bodyOf?_declare [] hnames hdistinct
      rw [if_pos rfl, if_pos rfl, Option.bind_some, fileValue?, resolveFuel,
        resolve_declare, Option.bind_some, Expr.value?, hbody]
      rfl

theorem field?_fieldOf {name : Text} {value : Setting} (hmem : (name, value) ∈ settings)
    (hdistinct : (settings.map Prod.fst).Nodup) :
    Value.field? ⟨name, .regular⟩ (settings.map fieldOf) =
      some (.present, some (.scalar value.scalar)) := by
  induction settings with
  | nil => cases hmem
  | cons s settings ih =>
      rw [List.map_cons, List.nodup_cons] at hdistinct
      rcases List.mem_cons.mp hmem with rfl | hmem
      · rw [List.map_cons, fieldOf, Value.field?, if_pos rfl]
      · have hne : (fieldOf s).1 ≠ ⟨name, .regular⟩ := fun heq => hdistinct.1 (by
          rw [show s.1 = name from congrArg Label.text heq]
          exact List.mem_map_of_mem hmem)
        rw [List.map_cons, Value.field?, if_neg hne, ih hmem hdistinct.2]

end Values

end Config

end TapeDuel
