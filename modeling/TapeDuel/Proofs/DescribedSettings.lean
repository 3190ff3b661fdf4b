import Mathlib
import TapeDuel.Config.Loader
import TapeDuel.Proofs.SettingFields

/-!
# Described settings are loaded

The settings in effect are described as lines of a configuration file, and the
question is whether a file of these lines gives the settings back. The value of the
file is the struct of all settings or nothing at all (`values_described`), so there
are two ways to fail. A text that is quoted with the value of a byte spoils the file,
and with it all look-ups, also those of the other settings (`lookup_unspellable`). In
a file that can be read everything is found under its name (`lookup_described`); but a
number is decoded only if its negative is a machine word too, which leaves the
smallest one out (`recall_of_lookup`).
-/

namespace TapeDuel

/-! ## Strings as texts -/

/-- The bytes that are taken one after the other are those that are there. -/
theorem Text.toList_loop (bytes : ByteArray) (i : Nat) (found : List UInt8) :
    ByteArray.toList.loop bytes i found = found.reverse ++ bytes.data.toList.drop i := by
  induction hleft : bytes.size - i generalizing i found with
  | zero =>
      have hend : bytes.data.toList.length ≤ i := by
        rw [Array.length_toList]
        exact Nat.le_of_sub_eq_zero hleft
      rw [ByteArray.toList.loop, if_neg (by omega), List.drop_eq_nil_of_le hend,
        List.append_nil]
  | succ left ih =>
      have hsize : i < bytes.size := Nat.lt_of_sub_pos (hleft ▸ Nat.succ_pos left)
      have hget : bytes.get! i = bytes.data.toList[i] := by
        rw [ByteArray.get!, getElem!_pos bytes.data i hsize, Array.getElem_toList]
      rw [ByteArray.toList.loop, if_pos hsize, ih _ _ (by omega), hget,
        List.reverse_cons, List.append_assoc, List.singleton_append,
        ← List.drop_eq_getElem_cons]

theorem Text.ofString_injective : Function.Injective ofString := by
  have htoList : ∀ s, ofString s = s.toUTF8.data.toList := fun s => by
    rw [ofString, ByteArray.toList, toList_loop]
    rfl
  intro s t h
  rw [htoList, htoList] at h
  exact String.toByteArray_inj.mp (ByteArray.ext (Array.toList_inj.mp h))

namespace Config

/-! ## Loading -/

/-- Settings with their names as they are written. -/
def written (settings : List (String × Setting)) : List (Text × Setting) :=
  settings.map fun s => (Text.ofString s.1, s.2)

/-- The loader of one file, which holds described settings, without a schema. -/
def described (file : String) (settings : List (String × Setting)) : Loader where
  files := [(file, .ok (describe (written settings)))]
  schema := []

/-- Whether the value is one that a setting can have: a number is a machine word. -/
def Setting.fits : Setting → Bool
  | int i => fits64 i
  | text _ => true

/-- What the loader gives for a setting to who asks for a value of its sort. -/
def Loader.recall (loader : Loader) (name : String) : Setting → Except Failure Setting
  | .int _ => (loader.first Value.toInt? 0 name).map .int
  | .text _ => (loader.first Value.toText? [] name).map .text

section Load

variable {file name : String} {value : Setting} {settings : List (String × Setting)}

theorem all_written :
    (written settings).all (·.2.isSpellable) = settings.all (·.2.isSpellable) :=
  List.all_map

theorem nodup_written (hdistinct : (settings.map Prod.fst).Nodup) :
    ((written settings).map Prod.fst).Nodup := by
  have htexts := hdistinct.map Text.ofString_injective
  rw [List.map_map] at htexts
  rw [written, List.map_map]
  exact htexts

/-- One value that cannot be read makes the file one that cannot be. -/
theorem values_described
    (hnames : ∀ s ∈ settings, isFieldName (Text.ofString s.1) = true)
    (hdistinct : (settings.map Prod.fst).Nodup) :
    (described file settings).values =
      if settings.all (·.2.isSpellable) then
        .ok [(file, .struct ((written settings).map fieldOf) [] .plain)]
      else .error (.within s!"config {file}" .badConfig) := by
  have hvalue : valueOf? (describe (written settings)) = _ :=
    valueOf?_describe (List.forall_mem_map.mpr hnames) (nodup_written hdistinct)
  rw [all_written] at hvalue
  have hread : Loader.readOne none file (.ok (describe (written settings))) =
      if settings.all (·.2.isSpellable) then
        .ok (.struct ((written settings).map fieldOf) [] .plain)
      else .error (.within s!"config {file}" .badConfig) := by
    rw [Loader.readOne, hvalue]
    cases settings.all (·.2.isSpellable) with
    | false => rfl
    | true => rfl
  simp only [Loader.values, described, List.isEmpty_nil, if_true, pure_bind,
    List.mapM_cons, List.mapM_nil, hread]
  cases settings.all (·.2.isSpellable) with
  | false => rfl
  | true => rfl

/-- A name is a path of one step. -/
theorem readPath_name (h : isFieldName (Text.ofString name) = true) :
    readPath name = some [.field ⟨Text.ofString name, .regular⟩] := by
  have hne : (Text.ofString name).isEmpty = false := by
    obtain ⟨b, tail, hname, -⟩ := Token.exists_opensName h
    rw [hname]
    rfl
  have hscalar : namedScalar? (Text.ofString name) = none := by
    rw [namedScalar?, if_neg (ne_of_mem_takenNames h (by simp [takenNames])),
      if_neg (ne_of_mem_takenNames h (by simp [takenNames])),
      if_neg (ne_of_mem_takenNames h (by simp [takenNames]))]
  have hstep : Selector.ofName? (Text.ofString name) =
      some (.field ⟨Text.ofString name, .regular⟩) := by
    rw [Selector.ofName?, Label.ofName_eq h]
    rfl
  rw [readPath, hne, Token.ofText_name h]
  simp [Selector.first?, hscalar, hstep, Selector.readMore]

/-- If all values can be read, each is found under its name. -/
theorem lookup_described
    (hnames : ∀ s ∈ settings, isFieldName (Text.ofString s.1) = true)
    (hdistinct : (settings.map Prod.fst).Nodup)
    (hall : settings.all (·.2.isSpellable) = true) (hmem : (name, value) ∈ settings) :
    (described file settings).lookup name = .ok [(file, .scalar value.scalar)] := by
  have hfield : Value.field? ⟨Text.ofString name, .regular⟩
      ((written settings).map fieldOf) = some (.present, some (.scalar value.scalar)) :=
    field?_fieldOf (List.mem_map_of_mem hmem) (nodup_written hdistinct)
  have hpath := readPath_name (hnames _ hmem)
  have hat : Value.at? (.struct ((written settings).map fieldOf) [] .plain)
      [.field ⟨Text.ofString name, .regular⟩] = some (.scalar value.scalar) := by
    rw [Value.at?, hfield]
    simp [Value.at?]
  rw [Loader.lookup, values_described hnames hdistinct, hall, hpath]
  simp [hat]

/-- If one value cannot be read, nothing is found anywhere. -/
theorem lookup_unspellable
    (hnames : ∀ s ∈ settings, isFieldName (Text.ofString s.1) = true)
    (hdistinct : (settings.map Prod.fst).Nodup)
    (hall : settings.all (·.2.isSpellable) = false) (path : String) :
    (described file settings).lookup path = .error
      (.within s!"config {file}" .badConfig) := by
  rw [Loader.lookup, values_described hnames hdistinct, hall]
  rfl

/-- A number is decoded if its negative is a machine word too. -/
theorem recall_of_lookup {loader : Loader} (hfits : value.fits = true)
    (hlookup : loader.lookup name = .ok [(file, .scalar value.scalar)]) :
    loader.recall name value =
      if value = .int (-2 ^ 63) then
        .error (.crash (.within s!"config {file}: {name}" .badConfig))
      else .ok value := by
  cases value with
  | int i =>
      have hdecode : Value.toInt? (.scalar (.int i)) =
          if i = -2 ^ 63 then none else some i := by
        simp only [Setting.fits, fits64, Bool.and_eq_true, decide_eq_true_eq] at hfits
        have hneg : (fits64 i && fits64 (-i)) = !decide (i = -2 ^ 63) := by
          rw [Bool.eq_iff_iff]
          simp only [fits64, Bool.and_eq_true, decide_eq_true_eq, Bool.not_eq_true',
            decide_eq_false_iff_not]
          omega
        simp only [Value.toInt?, Value.scalar?, Value.settled, hneg]
        by_cases hi : i = -2 ^ 63 <;> simp [hi]
      rw [Loader.recall, Loader.first, hlookup]
      by_cases hi : i = -2 ^ 63
      · rw [if_pos hi] at hdecode
        simp only [Setting.scalar, Loader.decode, hdecode,
          if_pos (congrArg Setting.int hi)]
        rfl
      · rw [if_neg hi] at hdecode
        have hne : Setting.int i ≠ .int (-2 ^ 63) := fun h => hi (Setting.int.inj h)
        simp only [Setting.scalar, Loader.decode, hdecode, if_neg hne]
        rfl
  | text t =>
      have hne : Setting.text t ≠ .int (-2 ^ 63) := fun h => by cases h
      rw [Loader.recall, Loader.first, hlookup, if_neg hne]
      rfl

/-- A loader that cannot be read gives nothing. -/
theorem recall_of_lookup_error {loader : Loader} {failure : Failure}
    (hlookup : loader.lookup name = .error failure) :
    loader.recall name value = .error (.crash failure) := by
  cases value with
  | int i =>
      rw [Loader.recall, Loader.first, hlookup]
      rfl
  | text t =>
      rw [Loader.recall, Loader.first, hlookup]
      rfl

end Load

/-- A file that consists of described settings gives every setting back if and only if
each rune of each text can be read from the way in which it is quoted, and no number
is the smallest machine word. If all texts can be read, only that number is lost, and
the look-up of it fails. If one of them cannot, all look-ups fail, whatever they ask
for. -/
theorem described_settings_load_iff (file : String) (settings : List (String × Setting))
    (hnames : ∀ s ∈ settings, isFieldName (Text.ofString s.1) = true)
    (hdistinct : (settings.map Prod.fst).Nodup)
    (hfits : ∀ s ∈ settings, s.2.fits = true) :
    ((∀ s ∈ settings, (described file settings).recall s.1 s.2 = .ok s.2) ↔
      ∀ s ∈ settings, s.2.isSpellable = true ∧ s.2 ≠ .int (-2 ^ 63)) ∧
    ((∀ s ∈ settings, s.2.isSpellable = true) → ∀ s ∈ settings,
      (described file settings).lookup s.1 = .ok [(file, .scalar s.2.scalar)] ∧
      (described file settings).recall s.1 s.2 =
        if s.2 = .int (-2 ^ 63) then
          .error (.crash (.within s!"config {file}: {s.1}" .badConfig))
        else .ok s.2) ∧
    ((∃ s ∈ settings, s.2.isSpellable = false) → ∀ path,
      (described file settings).lookup path =
        .error (.within s!"config {file}" .badConfig)) := by
  have hread : (∀ s ∈ settings, s.2.isSpellable = true) → ∀ s ∈ settings,
      (described file settings).lookup s.1 = .ok [(file, .scalar s.2.scalar)] ∧
      (described file settings).recall s.1 s.2 =
        if s.2 = .int (-2 ^ 63) then
          .error (.crash (.within s!"config {file}: {s.1}" .badConfig))
        else .ok s.2 := fun hall s hs => by
    have hlookup : (described file settings).lookup s.1 =
        .ok [(file, .scalar s.2.scalar)] :=
      lookup_described hnames hdistinct (List.all_eq_true.mpr hall) hs
    exact ⟨hlookup, recall_of_lookup (hfits s hs) hlookup⟩
  have hspoiled : (∃ s ∈ settings, s.2.isSpellable = false) → ∀ path,
      (described file settings).lookup path = .error
        (.within s!"config {file}" .badConfig) := by
    rintro ⟨s, hs, hspellable⟩
    refine lookup_unspellable hnames hdistinct ?_
    rw [List.all_eq_false]
    exact ⟨s, hs, by simp [hspellable]⟩
  refine ⟨⟨fun hrecall => ?_, fun hgood s hs => ?_⟩, hread, hspoiled⟩
  · by_cases hall : ∀ s ∈ settings, s.2.isSpellable = true
    · intro s hs
      refine ⟨hall s hs, fun hsmallest => ?_⟩
      have hlost := (hread hall s hs).2.symm.trans (hrecall s hs)
      rw [if_pos hsmallest] at hlost
      cases hlost
    · simp only [not_forall, Bool.not_eq_true] at hall
      obtain ⟨s, hs, hspellable⟩ := hall
      cases (hrecall s hs).symm.trans
        (recall_of_lookup_error (hspoiled ⟨s, hs, hspellable⟩ s.1))
  · rw [(hread (fun s hs => (hgood s hs).1) s hs).2, if_neg (hgood s hs).2]

/-- Settings that need every sort of escape: quotes and backslashes, control
characters that have letters, and unprintable runes of all widths. -/
def escapedSettings : List (String × Setting) :=
  [("ledger", .text (Text.ofString "a \"b\" \\ \t\n\x0b é \u00a0 ‰ \ufeff 𝄞" ++
      [0xF4, 0x8F, 0xBF, 0xBF])),
    ("grüße$1", .text []), ("max_steps", .int (-42)), ("n", .int 9223372036854775807)]

theorem described_settings_load_iff_escapes :
    (escapedSettings.map fun s => (described "0.cue" escapedSettings).recall s.1 s.2) =
      escapedSettings.map fun s => .ok s.2 :=
  List.map_congr_left
    ((described_settings_load_iff "0.cue" escapedSettings (by decide +kernel)
    (by decide) (by decide)).1.mpr (by decide +kernel))

/-- The character of code one is quoted by the value of its byte, and the file that it
stands in cannot be read. -/
theorem control_character_spoils_file :
    describe [("ledger", .text [1])] = "ledger: \"\\x01\"\n" ∧
    (described "0.cue" [("ledger", .text [1])]).recall "ledger" (.text [1]) =
      .error (.crash (.within "config 0.cue" .badConfig)) :=
  ⟨by decide +kernel, recall_of_lookup_error (lookup_unspellable
    (List.forall_mem_singleton.mpr (by cbv)) (by decide) (by decide) _)⟩

end Config

end TapeDuel
