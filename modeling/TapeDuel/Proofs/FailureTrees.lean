import Mathlib.Data.List.Basic
import Mathlib.Data.List.Flatten
import TapeDuel.Failure

/-!
# Diagnostics inside a failure

A failure is a tree: causes are its leaves, words of context or a span have one
failure inside, a join has several. Two functions look for diagnostics in it.
The search goes depth first through wraps and joins alike and stops at the first
one. Listing takes joins apart and lists their members, but it leaves what is
inside of a wrap to the search, so a join below a wrap gives it one diagnostic
at most.

Both are held here against the list of all diagnostics of the tree, depth first.
The search finds its head. The listing is a part of it in the same order and
with the same head, and it is the whole of it where no join lies below a wrap.
-/

namespace TapeDuel.Failure

/-! ## The tree -/

/-- A failure around another one. -/
inductive Wraps : Failure → Failure → Prop where
  | within (context : String) (f : Failure) : Wraps (.within context f) f
  | inSpan (span : String) (f : Failure) : Wraps (.inSpan span f) f
  | crash (f : Failure) : Wraps (.crash f) f

/-- Whether nothing is inside of a failure. -/
def isCause : Failure → Bool
  | within _ _ | inSpan _ _ | crash _ | join _ => false
  | _ => true

/-- The first failure is the second one, or somewhere inside of it. -/
inductive Part : Failure → Failure → Prop where
  | self (f : Failure) : Part f f
  | wrapped {x f g : Failure} (hwrap : f.Wraps g) (hpart : Part x g) : Part x f
  | member {x g : Failure} {members : List Failure} (hmem : g ∈ members)
      (hpart : Part x g) : Part x (.join members)

/-- No join lies below a wrap. -/
def JoinsOutermost (f : Failure) : Prop :=
  ∀ w g, Part w f → w.Wraps g → ∀ members, ¬ Part (.join members) g

/-- What causes have, and what is handed on from inside of wraps and joins, every
failure has. -/
theorem tree_induction {motive : Failure → Prop}
    (cause : ∀ f, f.isCause = true → motive f)
    (wrap : ∀ f g, f.Wraps g → motive g → motive f)
    (join : ∀ members, (∀ f ∈ members, motive f) → motive (.join members))
    (f : Failure) : motive f := by
  cases f with
  | within context g =>
      exact wrap _ g (.within context g) (tree_induction cause wrap join g)
  | inSpan span g => exact wrap _ g (.inSpan span g) (tree_induction cause wrap join g)
  | crash g => exact wrap _ g (.crash g) (tree_induction cause wrap join g)
  | join members => exact join members fun g _ => tree_induction cause wrap join g
  | _ => exact cause _ rfl

section Part

variable {f g x : Failure} {members : List Failure}

theorem part_cause_iff (h : f.isCause = true) : Part x f ↔ x = f := by
  constructor
  · intro hpart
    cases hpart with
    | self => rfl
    | wrapped hwrap => cases hwrap <;> cases h
    | member => cases h
  · rintro rfl
    exact .self x

theorem part_wrap_iff (h : f.Wraps g) : Part x f ↔ x = f ∨ Part x g := by
  constructor
  · intro hpart
    cases hpart with
    | self => exact .inl rfl
    | wrapped hwrap hpart => cases h <;> cases hwrap <;> exact .inr hpart
    | member => cases h
  · rintro (rfl | hpart)
    · exact .self x
    · exact .wrapped h hpart

theorem part_join_iff :
    Part x (.join members) ↔ x = .join members ∨ ∃ g ∈ members, Part x g := by
  constructor
  · intro hpart
    cases hpart with
    | self => exact .inl rfl
    | wrapped hwrap => cases hwrap
    | member hmem hpart => exact .inr ⟨_, hmem, hpart⟩
  · rintro (rfl | ⟨g, hmem, hpart⟩)
    · exact .self _
    · exact .member hmem hpart

theorem JoinsOutermost.of_member (h : JoinsOutermost (.join members))
    (hmem : g ∈ members) : g.JoinsOutermost :=
  fun w inner hpart => h w inner (.member hmem hpart)

end Part

/-! ## All diagnostics -/

/-- The diagnostic that a failure is, if it is one. -/
def diagnostic? : Failure → Option Diagnostic
  | diagnostic d => some d
  | _ => none

/-- All diagnostics of a failure, depth first. -/
def allDiagnostics (f : Failure) : List Diagnostic :=
  f.causes.filterMap diagnostic?

theorem causesOf_eq_flatMap (members : List Failure) :
    causesOf members = members.flatMap causes := by
  induction members with
  | nil => rfl
  | cons f rest ih => rw [causesOf, ih, List.flatMap_cons]

theorem diagnosticsOf_eq_flatMap (members : List Failure) :
    diagnosticsOf members = members.flatMap diagnostics := by
  induction members with
  | nil => rfl
  | cons f rest ih => rw [diagnosticsOf, ih, List.flatMap_cons]

theorem diagnostics_join (members : List Failure) :
    (join members).diagnostics = members.flatMap diagnostics := by
  rw [diagnostics, diagnosticsOf_eq_flatMap]

theorem allDiagnostics_join (members : List Failure) :
    (join members).allDiagnostics = members.flatMap allDiagnostics := by
  rw [allDiagnostics, causes, causesOf_eq_flatMap, List.filterMap_flatMap]
  rfl

section Cause

variable {f : Failure}

theorem allDiagnostics_cause (h : f.isCause = true) :
    f.allDiagnostics = f.diagnostic?.toList := by
  cases f <;> first | rfl | cases h

theorem firstDiagnostic?_cause (h : f.isCause = true) :
    f.firstDiagnostic? = f.diagnostic? := by
  cases f <;> first | rfl | cases h

theorem diagnostics_cause (h : f.isCause = true) :
    f.diagnostics = f.diagnostic?.toList := by
  cases f <;> first | rfl | cases h

theorem diagnostic?_eq_some_iff {d : Diagnostic} :
    f.diagnostic? = some d ↔ f = .diagnostic d := by
  cases f <;> simp [diagnostic?]

end Cause

section Wrap

variable {f g : Failure}

theorem allDiagnostics_wrap (h : f.Wraps g) : f.allDiagnostics = g.allDiagnostics := by
  cases h <;> rfl

theorem firstDiagnostic?_wrap (h : f.Wraps g) :
    f.firstDiagnostic? = g.firstDiagnostic? := by
  cases h <;> rfl

theorem diagnostics_wrap (h : f.Wraps g) :
    f.diagnostics = g.firstDiagnostic?.toList := by
  cases h <;> rfl

end Wrap

theorem mem_allDiagnostics {f : Failure} {d : Diagnostic} :
    d ∈ f.allDiagnostics ↔ Part (.diagnostic d) f := by
  induction f using tree_induction with
  | cause f hcause =>
      rw [allDiagnostics_cause hcause, part_cause_iff hcause, Option.mem_toList,
        diagnostic?_eq_some_iff, eq_comm]
  | wrap f g hwrap ih =>
      have hne : .diagnostic d ≠ f := by
        rintro rfl
        cases hwrap
      rw [allDiagnostics_wrap hwrap, ih, part_wrap_iff hwrap, or_iff_right hne]
  | join members ih =>
      rw [allDiagnostics_join, List.mem_flatMap, part_join_iff, or_iff_right nofun]
      exact exists_congr fun g => and_congr_right fun hg => ih g hg

/-! ## The search -/

/-- The search in several failures finds what comes first in any lists for them
that begin with what it finds in each. -/
theorem firstDiagnosticOf?_eq_head? {members : List Failure}
    {list : Failure → List Diagnostic}
    (h : ∀ f ∈ members, f.firstDiagnostic? = (list f).head?) :
    firstDiagnosticOf? members = (members.flatMap list).head? := by
  induction members with
  | nil => rfl
  | cons f rest ih =>
      obtain ⟨hf, hrest⟩ := List.forall_mem_cons.mp h
      rw [firstDiagnosticOf?, hf, ih hrest, List.flatMap_cons, List.head?_append,
        Option.orElse_eq_orElse, Option.orElse_eq_or]

/-- The search finds the first of all diagnostics. -/
theorem firstDiagnostic?_eq_head? (f : Failure) :
    f.firstDiagnostic? = f.allDiagnostics.head? := by
  induction f using tree_induction with
  | cause f hcause =>
      rw [firstDiagnostic?_cause hcause, allDiagnostics_cause hcause]
      cases f.diagnostic? <;> rfl
  | wrap f g hwrap ih => rw [firstDiagnostic?_wrap hwrap, ih, allDiagnostics_wrap hwrap]
  | join members ih =>
      rw [firstDiagnostic?, allDiagnostics_join, firstDiagnosticOf?_eq_head? ih]

/-! ## The listing -/

theorem head?_diagnostics (f : Failure) : f.diagnostics.head? = f.firstDiagnostic? := by
  induction f using tree_induction with
  | cause f hcause =>
      rw [diagnostics_cause hcause, firstDiagnostic?_cause hcause]
      cases f.diagnostic? <;> rfl
  | wrap f g hwrap ih =>
      rw [diagnostics_wrap hwrap, firstDiagnostic?_wrap hwrap]
      cases g.firstDiagnostic? <;> rfl
  | join members ih =>
      rw [diagnostics_join, firstDiagnostic?,
        firstDiagnosticOf?_eq_head? fun f hf => (ih f hf).symm]

theorem diagnostics_sublist (f : Failure) : f.diagnostics.Sublist f.allDiagnostics := by
  induction f using tree_induction with
  | cause f hcause =>
      rw [diagnostics_cause hcause, allDiagnostics_cause hcause]
  | wrap f g hwrap ih =>
      rw [diagnostics_wrap hwrap, allDiagnostics_wrap hwrap, firstDiagnostic?_eq_head?]
      cases g.allDiagnostics with
      | nil => exact .refl []
      | cons d ds => exact (List.nil_sublist ds).cons_cons d
  | join members ih =>
      rw [diagnostics_join, allDiagnostics_join]
      exact List.Sublist.flatMap_right members ih

/-- Something is listed if and only if there is something to list. -/
theorem diagnostics_ne_nil_iff {f : Failure} :
    f.diagnostics ≠ [] ↔ ∃ d, Part (.diagnostic d) f := by
  have hsame : f.diagnostics = [] ↔ f.allDiagnostics = [] := by
    rw [← List.head?_eq_none_iff, head?_diagnostics, firstDiagnostic?_eq_head?,
      List.head?_eq_none_iff]
  rw [ne_eq, hsame]
  constructor
  · intro hne
    obtain ⟨d, hd⟩ := List.exists_mem_of_ne_nil _ hne
    exact ⟨d, mem_allDiagnostics.mp hd⟩
  · rintro ⟨d, hd⟩
    exact List.ne_nil_of_mem (mem_allDiagnostics.mpr hd)

/-- Without a join a failure has one diagnostic at most. -/
theorem allDiagnostics_of_no_join {f : Failure}
    (h : ∀ members, ¬ Part (.join members) f) :
    f.allDiagnostics = f.firstDiagnostic?.toList := by
  induction f using tree_induction with
  | cause f hcause => rw [allDiagnostics_cause hcause, firstDiagnostic?_cause hcause]
  | wrap f g hwrap ih =>
      rw [allDiagnostics_wrap hwrap, firstDiagnostic?_wrap hwrap]
      exact ih fun members hpart => h members (.wrapped hwrap hpart)
  | join members => exact absurd (.self _) (h members)

theorem diagnostics_of_joinsOutermost {f : Failure} (h : f.JoinsOutermost) :
    f.diagnostics = f.allDiagnostics := by
  induction f using tree_induction with
  | cause f hcause => rw [diagnostics_cause hcause, allDiagnostics_cause hcause]
  | wrap f g hwrap ih =>
      rw [diagnostics_wrap hwrap, allDiagnostics_wrap hwrap,
        allDiagnostics_of_no_join (h f g (.self f) hwrap)]
  | join members ih =>
      rw [diagnostics_join, allDiagnostics_join]
      exact List.flatMap_congr fun g hg => ih g hg (h.of_member hg)

/-- The diagnostics that are listed of a failure against the search for one. There
are some if and only if there is one anywhere in the tree; the first of them is the
one that the search finds, which is the first of all; they are diagnostics of the
tree, in the order of the tree. Where no join lies below a wrap they are all of
them, each as often as it occurs. A join has those of its members, one after the
other. -/
theorem diagnostics_agree_with_search (f : Failure) :
    (f.diagnostics ≠ [] ↔ ∃ d, Part (.diagnostic d) f) ∧
    f.diagnostics.head? = f.firstDiagnostic? ∧
    f.firstDiagnostic? = f.allDiagnostics.head? ∧
    f.diagnostics.Sublist f.allDiagnostics ∧
    (∀ d, d ∈ f.allDiagnostics ↔ Part (.diagnostic d) f) ∧
    (f.JoinsOutermost → f.diagnostics = f.allDiagnostics) ∧
    ∀ members, (join members).diagnostics = members.flatMap diagnostics :=
  ⟨diagnostics_ne_nil_iff, head?_diagnostics f, firstDiagnostic?_eq_head? f,
    diagnostics_sublist f, fun _ => mem_allDiagnostics, diagnostics_of_joinsOutermost,
    diagnostics_join⟩

/-- Below a wrap a join hides what comes behind its first diagnostic. -/
example (d e : Diagnostic) :
    (within "wrapped" (.join [.diagnostic d, .diagnostic e])).diagnostics = [d] := rfl

end TapeDuel.Failure
