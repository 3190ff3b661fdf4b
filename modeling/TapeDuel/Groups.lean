/-!
# Groups

A list is split into groups of elements with the same key. The groups stand in the order
in which their keys are first met, and the elements of a group keep their order. No group
is empty, so each has a first element, whose key is that of the group.
-/

namespace TapeDuel

/-- Elements with the same key. -/
structure KeyGroup (α : Type) where
  /-- The element that was met first. -/
  first : α
  rest : List α

namespace KeyGroup

variable {α κ : Type} [DecidableEq κ]

/-- All elements of a group, in the order in which they were met. -/
def members (g : KeyGroup α) : List α :=
  g.first :: g.rest

/-- Puts an element into the group of its key. A new key opens a group behind the
others. -/
def put (key : α → κ) (a : α) : List (KeyGroup α) → List (KeyGroup α)
  | [] => [⟨a, []⟩]
  | g :: groups =>
    if key g.first = key a then ⟨g.first, g.rest ++ [a]⟩ :: groups
    else g :: put key a groups

end KeyGroup

/-- The groups of a list. -/
def groupsBy {α κ : Type} [DecidableEq κ] (key : α → κ) (as : List α) :
    List (KeyGroup α) :=
  as.foldl (fun groups a => KeyGroup.put key a groups) []

/-- What makes groups those of a list: no key has two groups, every element has one, and
a group has all elements of its key in their order. -/
structure GroupsOf {α κ : Type} [DecidableEq κ] (key : α → κ) (as : List α)
    (groups : List (KeyGroup α)) : Prop where
  nodup_keys : (groups.map fun g => key g.first).Nodup
  key_mem : ∀ a ∈ as, key a ∈ groups.map fun g => key g.first
  members_eq : ∀ g ∈ groups, g.members = as.filter fun a => key a = key g.first

section

variable {α κ : Type} [DecidableEq κ] {key : α → κ} {as : List α}
  {groups : List (KeyGroup α)}

theorem KeyGroup.put_append {a : α} {before : List (KeyGroup α)}
    (h : ∀ g ∈ before, key g.first ≠ key a) (groups : List (KeyGroup α)) :
    put key a (before ++ groups) = before ++ put key a groups := by
  induction before with
  | nil => rfl
  | cons g before ih =>
      obtain ⟨hg, hbefore⟩ := List.forall_mem_cons.mp h
      rw [List.cons_append, put, if_neg hg, ih hbefore, List.cons_append]

namespace GroupsOf

theorem nil : GroupsOf key [] [] :=
  ⟨.nil, by simp, by simp⟩

/-- An element of another key changes nothing in a group. -/
theorem members_eq_concat (h : GroupsOf key as groups) {a : α} {g : KeyGroup α}
    (hg : g ∈ groups) (hkey : key g.first ≠ key a) :
    g.members = (as ++ [a]).filter fun b => key b = key g.first := by
  rw [List.filter_append, List.filter_cons, if_neg (by simpa using Ne.symm hkey),
    List.filter_nil, List.append_nil]
  exact h.members_eq g hg

/-- An element of a known key goes to the group of that key, and to no other. -/
theorem put_known (h : GroupsOf key as groups) {a : α} {g : KeyGroup α} (hg : g ∈ groups)
    (hkey : key g.first = key a) :
    GroupsOf key (as ++ [a]) (KeyGroup.put key a groups) := by
  obtain ⟨before, behind, rfl⟩ := List.append_of_mem hg
  have hnodup := h.nodup_keys
  rw [List.map_append, List.map_cons, List.nodup_append] at hnodup
  obtain ⟨-, hbehind, hbefore⟩ := hnodup
  have hne₁ : ∀ g' ∈ before, key g'.first ≠ key a := fun g' hg' =>
    hkey ▸ hbefore _ (List.mem_map_of_mem hg') _ List.mem_cons_self
  have hne₂ : ∀ g' ∈ behind, key g'.first ≠ key a := fun g' hg' heq =>
    (List.nodup_cons.mp hbehind).1 (hkey ▸ heq ▸ List.mem_map_of_mem hg')
  rw [KeyGroup.put_append hne₁, KeyGroup.put, if_pos hkey]
  constructor
  case nodup_keys =>
    simpa using h.nodup_keys
  case key_mem =>
    have hkeys : ∀ b ∈ as ++ [a],
        key b ∈ (before ++ g :: behind).map fun g => key g.first := by
      intro b hb
      rcases List.mem_append.mp hb with hb | hb
      · exact h.key_mem b hb
      · rw [List.mem_singleton.mp hb, ← hkey]
        exact List.mem_map_of_mem hg
    simpa using hkeys
  case members_eq =>
    intro g' hg'
    rcases List.mem_append.mp hg' with hg' | hg'
    · exact h.members_eq_concat (List.mem_append_left _ hg') (hne₁ g' hg')
    · rcases List.mem_cons.mp hg' with rfl | hg'
      · rw [List.filter_append, List.filter_cons, if_pos (by simp [hkey]),
          List.filter_nil, ← h.members_eq g hg]
        rfl
      · exact h.members_eq_concat (by simp [hg']) (hne₂ g' hg')

/-- An element of a new key opens a group: nobody before it had this key. -/
theorem put_new (h : GroupsOf key as groups) {a : α}
    (hne : ∀ g ∈ groups, key g.first ≠ key a) :
    GroupsOf key (as ++ [a]) (KeyGroup.put key a groups) := by
  have hput := KeyGroup.put_append hne []
  rw [List.append_nil] at hput
  rw [hput]
  constructor
  case nodup_keys =>
    rw [List.map_append, List.nodup_append]
    refine ⟨h.nodup_keys, by simp [KeyGroup.put], fun k hk k' hk' => ?_⟩
    obtain ⟨g, hg, rfl⟩ := List.mem_map.mp hk
    rw [List.mem_singleton.mp hk']
    exact hne g hg
  case key_mem =>
    intro b hb
    rw [List.map_append]
    rcases List.mem_append.mp hb with hb | hb
    · exact List.mem_append_left _ (h.key_mem b hb)
    · rw [List.mem_singleton.mp hb]
      exact List.mem_append_right _ List.mem_cons_self
  case members_eq =>
    intro g hg
    rcases List.mem_append.mp hg with hg | hg
    · exact h.members_eq_concat hg (hne g hg)
    · have hnobody : as.filter (fun b => key b = key a) = [] := by
        rw [List.filter_eq_nil_iff]
        intro b hb heq
        obtain ⟨g', hg', hkey⟩ := List.mem_map.mp (h.key_mem b hb)
        exact hne g' hg' (hkey.trans (of_decide_eq_true heq))
      rw [List.mem_singleton.mp hg, List.filter_append, hnobody, List.nil_append]
      simp [KeyGroup.members]

theorem put (h : GroupsOf key as groups) (a : α) :
    GroupsOf key (as ++ [a]) (KeyGroup.put key a groups) := by
  by_cases hknown : ∃ g ∈ groups, key g.first = key a
  · obtain ⟨g, hg, hkey⟩ := hknown
    exact h.put_known hg hkey
  · exact h.put_new fun g hg hkey => hknown ⟨g, hg, hkey⟩

theorem foldl_put (h : GroupsOf key as groups) (bs : List α) :
    GroupsOf key (as ++ bs)
      (bs.foldl (fun groups a => KeyGroup.put key a groups) groups) := by
  induction bs generalizing as groups with
  | nil => rwa [List.append_nil]
  | cons b bs ih =>
      have hrest := ih (h.put b)
      rwa [List.append_assoc, List.singleton_append] at hrest

end GroupsOf

theorem groupsOf_groupsBy (key : α → κ) (as : List α) :
    GroupsOf key as (groupsBy key as) :=
  GroupsOf.nil.foldl_put as

theorem GroupsOf.mem_of_mem_members (h : GroupsOf key as groups) {g : KeyGroup α}
    (hg : g ∈ groups) {a : α} (ha : a ∈ g.members) : a ∈ as ∧ key a = key g.first := by
  rw [h.members_eq g hg, List.mem_filter, decide_eq_true_iff] at ha
  exact ha

theorem GroupsOf.first_mem (h : GroupsOf key as groups) {g : KeyGroup α}
    (hg : g ∈ groups) : g.first ∈ as :=
  (h.mem_of_mem_members hg List.mem_cons_self).1

end

end TapeDuel
