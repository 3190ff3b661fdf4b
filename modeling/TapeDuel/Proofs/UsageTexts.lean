import Mathlib
import TapeDuel.Command.Usage

/-!
# Usage texts do not depend on the order of rows

A table knows commands by name, and the order in which it holds its rows means nothing.
The usage text goes through the rows as they come, collects the names of each command,
sorts them, and sorts the commands by their first names. What it has collected in the end
does not depend on the order (`Command.blocks_eq_of_perm`): names are distinct, and what
is said of a command is the same under all of them. So a table whose rows stand in
another order, also in the tables of sub commands, has the same text.

What the text is can be said without sorting anything. A listing of a table has one
block for each command, with all names of the command in ascending order, and the
blocks are in ascending order of their first names (`CommandTable.IsListing`). No
table has two listings. A text is printed for a table if it consists of the lines of
the listing, each with what is printed for the sub commands behind it
(`CommandTable.Prints`), and the usage text is the only text that is printed.
-/

namespace TapeDuel

variable {σ ε : Type}

/-! ## Lists in ascending order -/

section Ascending

variable {α : Type} {key : α → String} {xs ys : List α}

theorem pairwise_mergeSort_key (key : α → String) (xs : List α) :
    (xs.mergeSort fun a b => key a ≤ key b).Pairwise fun a b => key a ≤ key b := by
  have h : (xs.mergeSort fun a b => key a ≤ key b).Pairwise fun a b =>
      decide (key a ≤ key b) = true :=
    List.pairwise_mergeSort
      (fun a b c hab hbc => by
        simp only [decide_eq_true_eq] at hab hbc ⊢
        exact le_trans hab hbc)
      (fun a b => by
        simp only [Bool.or_eq_true, decide_eq_true_eq]
        exact le_total (key a) (key b)) xs
  exact h.imp of_decide_eq_true

/-- Strictly ascending lists with the same elements are the same. -/
theorem eq_of_ascending (hxs : xs.Pairwise fun a b => key a < key b)
    (hys : ys.Pairwise fun a b => key a < key b) (h : ∀ a, a ∈ xs ↔ a ∈ ys) :
    xs = ys := by
  have : Std.Irrefl fun a b : α => key a < key b := ⟨fun a => lt_irrefl (key a)⟩
  have : Std.Antisymm fun a b : α => key a < key b :=
    ⟨fun _ _ hab hba => absurd hba (lt_asymm hab)⟩
  exact hxs.eq_of_mem_iff hys h

end Ascending

namespace Command

/-! ## Collected commands -/

section Blocks

variable {es fs : List UsageEntry} {b : UsageBlock}

theorem mem_blocks :
    b ∈ blocks es ↔ ∃ g ∈ groupsBy UsageEntry.tag es, UsageBlock.ofGroup g = b := by
  rw [blocks, List.mem_mergeSort, List.mem_map]

/-- The names of a command are those of the entries with its tag. -/
theorem mem_names_of_mem_blocks (hb : b ∈ blocks es) {name : String} :
    name ∈ b.names ↔ ∃ e ∈ es, e.tag = b.tag ∧ e.name = name := by
  obtain ⟨g, hg, rfl⟩ := mem_blocks.mp hb
  dsimp only [UsageBlock.ofGroup]
  rw [List.mem_mergeSort, (groupsOf_groupsBy _ es).members_eq g hg, List.mem_map]
  simp only [List.mem_filter, decide_eq_true_eq, and_assoc]

/-- What is said of a command is what one of its entries says. -/
theorem exists_entry (hb : b ∈ blocks es) :
    ∃ e ∈ es, e.tag = b.tag ∧ e.lineEnd = b.lineEnd ∧ e.below = b.below := by
  obtain ⟨g, hg, rfl⟩ := mem_blocks.mp hb
  exact ⟨g.first, (groupsOf_groupsBy _ es).first_mem hg, rfl, rfl, rfl⟩

theorem exists_block {e : UsageEntry} (he : e ∈ es) :
    ∃ b ∈ blocks es, b.tag = e.tag := by
  obtain ⟨g, hg, htag⟩ :=
    List.mem_map.mp ((groupsOf_groupsBy UsageEntry.tag es).key_mem e he)
  exact ⟨_, mem_blocks.mpr ⟨g, hg, rfl⟩, htag⟩

theorem nodup_tags_blocks (es : List UsageEntry) :
    ((blocks es).map UsageBlock.tag).Nodup := by
  rw [blocks, ((List.mergeSort_perm _ _).map UsageBlock.tag).nodup_iff, List.map_map]
  exact (groupsOf_groupsBy UsageEntry.tag es).nodup_keys

theorem first_mem_names (hb : b ∈ blocks es) : b.first ∈ b.names := by
  obtain ⟨e, he, htag, -⟩ := exists_entry hb
  have hname := (mem_names_of_mem_blocks hb).mpr ⟨e, he, htag, rfl⟩
  rw [UsageBlock.first]
  cases hnames : b.names with
  | nil => rw [hnames] at hname; cases hname
  | cons name names => exact List.mem_cons_self

/-- Where names are distinct, so are the names of a command. -/
theorem pairwise_names (hnames : (es.map UsageEntry.name).Nodup) (hb : b ∈ blocks es) :
    b.names.Pairwise (· < ·) := by
  obtain ⟨g, hg, rfl⟩ := mem_blocks.mp hb
  have hdistinct : (g.members.map UsageEntry.name).Nodup := by
    rw [(groupsOf_groupsBy _ es).members_eq g hg]
    exact hnames.sublist (List.filter_sublist.map _)
  have hsorted := pairwise_mergeSort_key id (g.members.map UsageEntry.name)
  exact (hsorted.and ((List.mergeSort_perm _ _).nodup_iff.mpr hdistinct)).imp fun h =>
    lt_of_le_of_ne h.1 h.2

/-- No name stands for two commands, so the first names are distinct too. -/
theorem pairwise_blocks (hnames : (es.map UsageEntry.name).Nodup) :
    (blocks es).Pairwise fun b c => b.first < c.first := by
  have hsorted : (blocks es).Pairwise fun b c => b.first ≤ c.first :=
    pairwise_mergeSort_key UsageBlock.first _
  refine (hsorted.and (List.pairwise_map.mp (nodup_tags_blocks es))).imp_of_mem ?_
  rintro b c hb hc ⟨hle, htags⟩
  refine lt_of_le_of_ne hle fun hsame => htags ?_
  obtain ⟨e, he, hetag, hename⟩ := (mem_names_of_mem_blocks hb).mp (first_mem_names hb)
  obtain ⟨f, hf, hftag, hfname⟩ := (mem_names_of_mem_blocks hc).mp (first_mem_names hc)
  have hef : e = f :=
    List.inj_on_of_nodup_map hnames he hf (hename.trans (hsame.trans hfname.symm))
  rw [← hetag, ← hftag, hef]

/-- What can be said of the entries of a table: the names are distinct, and a command is
the same under all of its names. -/
structure Coherent (es : List UsageEntry) : Prop where
  nodup_names : (es.map UsageEntry.name).Nodup
  lineEnd_eq : ∀ e ∈ es, ∀ f ∈ es, e.tag = f.tag → e.lineEnd = f.lineEnd
  below_eq : ∀ e ∈ es, ∀ f ∈ es, e.tag = f.tag → e.below = f.below

theorem Coherent.perm (h : Coherent es) (hperm : es.Perm fs) : Coherent fs where
  nodup_names := (hperm.map UsageEntry.name).nodup_iff.mp h.nodup_names
  lineEnd_eq e he f hf := h.lineEnd_eq e (hperm.mem_iff.mpr he) f (hperm.mem_iff.mpr hf)
  below_eq e he f hf := h.below_eq e (hperm.mem_iff.mpr he) f (hperm.mem_iff.mpr hf)

/-- Whichever of its entries comes first, a command is collected in one way. -/
theorem Coherent.blocks_subset (h : Coherent es) (hperm : es.Perm fs) :
    blocks es ⊆ blocks fs := by
  intro b hb
  obtain ⟨e, he, hetag, hend, hbelow⟩ := exists_entry hb
  obtain ⟨c, hc, htag⟩ := exists_block (hperm.mem_iff.mp he)
  obtain ⟨f, hf, hftag, hend', hbelow'⟩ := exists_entry hc
  have hf : f ∈ es := hperm.mem_iff.mpr hf
  have htags : e.tag = f.tag := htag.symm.trans hftag.symm
  have hnames : b.names = c.names := by
    refine (pairwise_names h.nodup_names hb).eq_of_mem_iff
      (pairwise_names (h.perm hperm).nodup_names hc) fun name => ?_
    rw [mem_names_of_mem_blocks hb, mem_names_of_mem_blocks hc, ← hetag, htag]
    exact exists_congr fun d => and_congr_left fun _ => hperm.mem_iff
  have hsame : b = c := by
    refine UsageBlock.ext (hetag.symm.trans htag.symm) hnames ?_ ?_
    · rw [← hend, ← hend', h.lineEnd_eq e he f hf htags]
    · rw [← hbelow, ← hbelow', h.below_eq e he f hf htags]
  exact hsame ▸ hc

theorem blocks_eq_of_perm (h : Coherent es) (hperm : es.Perm fs) :
    blocks es = blocks fs :=
  eq_of_ascending (pairwise_blocks h.nodup_names)
    (pairwise_blocks (h.perm hperm).nodup_names) fun _ =>
      ⟨fun hb => h.blocks_subset hperm hb,
        fun hb => (h.perm hperm).blocks_subset hperm.symm hb⟩

theorem layout_eq_of_perm (depth : Nat) (h : Coherent es) (hperm : es.Perm fs) :
    layout depth es = layout depth fs := by
  rw [layout, layout, blocks_eq_of_perm h hperm]

end Blocks

/-! ## The entries of rows -/

/-- What the usage text says of a command under one of its names. -/
def entryOf (depth : Nat) (name : String) (tag : Nat) (command : Command σ ε) :
    UsageEntry :=
  ⟨name, tag, lineEnd command.action command.description, subLines depth command⟩

theorem entries_vacant (depth : Nat) (name : String) (tag : Nat)
    (rows : List (Row (Command σ ε))) :
    entries depth (⟨name, tag, none⟩ :: rows) = entries depth rows := by
  rw [entries]

theorem entries_cons (depth : Nat) (name : String) (tag : Nat) (command : Command σ ε)
    (rows : List (Row (Command σ ε))) :
    entries depth (⟨name, tag, some command⟩ :: rows) =
      entryOf depth name tag command :: entries depth rows := by
  rw [entries]
  rfl

theorem entries_append (depth : Nat) (rows rows' : List (Row (Command σ ε))) :
    entries depth (rows ++ rows') = entries depth rows ++ entries depth rows' := by
  induction rows with
  | nil =>
      rw [entries]
      rfl
  | cons row rows ih =>
      obtain ⟨name, tag, command | command⟩ := row
      · rw [List.cons_append, entries_vacant, entries_vacant, ih]
      · rw [List.cons_append, entries_cons, entries_cons, ih, List.cons_append]

theorem mem_entries {depth : Nat} {rows : List (Row (Command σ ε))} {e : UsageEntry} :
    e ∈ entries depth rows ↔ ∃ row ∈ rows, ∃ command, row.command = some command ∧
      e = entryOf depth row.name row.tag command := by
  induction rows with
  | nil =>
      rw [entries]
      simp
  | cons row rows ih =>
      obtain ⟨name, tag, command | command⟩ := row
      · rw [entries_vacant, ih]
        simp
      · rw [entries_cons, List.mem_cons, ih]
        simp

theorem names_entries_sublist (depth : Nat) (rows : List (Row (Command σ ε))) :
    ((entries depth rows).map UsageEntry.name).Sublist (rows.map Row.name) := by
  induction rows with
  | nil =>
      rw [entries]
      exact .slnil
  | cons row rows ih =>
      obtain ⟨name, tag, command | command⟩ := row
      · rw [entries_vacant]
        exact ih.cons name
      · rw [entries_cons]
        exact ih.cons_cons name

end Command

namespace CommandTable

open Command

/-- The lines of a table at some depth. -/
def usageAt (depth : Nat) (table : CommandTable σ ε) : String :=
  layout depth (entries depth table)

theorem subLines_eq_usageAt (depth : Nat) (command : Command σ ε) :
    subLines depth command = usageAt (depth + 1) command.subs := by
  cases command
  rw [subLines, subs]
  rfl

/-- Whether rows make up a table: their names are distinct, names of one tag stand for
one command, and the rows of sub commands make up tables too. -/
inductive IsTable : CommandTable σ ε → Prop
  | intro {table : CommandTable σ ε} (hnames : (table.map Row.name).Nodup)
      (htags : ∀ row ∈ table, ∀ row' ∈ table, ∀ c c', row.command = some c →
        row'.command = some c' → row.tag = row'.tag → c = c')
      (hsubs : ∀ row ∈ table, ∀ c, row.command = some c → IsTable c.subs) : IsTable table

/-- The same rows in another order, with the sub commands of each in another order. -/
inductive Reordered : CommandTable σ ε → CommandTable σ ε → Prop
  | nil : Reordered [] []
  | vacant {name : String} {tag : Nat} {rows behind : CommandTable σ ε}
      (before : CommandTable σ ε) (hrows : Reordered rows (before ++ behind)) :
      Reordered (⟨name, tag, none⟩ :: rows) (before ++ ⟨name, tag, none⟩ :: behind)
  | cons {name : String} {tag : Nat} {action : Option (Command.Action σ ε)}
      {description : String} {subs subs' rows behind : CommandTable σ ε}
      (before : CommandTable σ ε)
      (hsubs : Reordered subs subs') (hrows : Reordered rows (before ++ behind)) :
      Reordered (⟨name, tag, some (.mk action subs description)⟩ :: rows)
        (before ++ ⟨name, tag, some (.mk action subs' description)⟩ :: behind)

theorem IsTable.of_cons {row : Row (Command σ ε)} {rows : CommandTable σ ε}
    (h : IsTable (row :: rows)) : IsTable rows := by
  obtain ⟨hnames, htags, hsubs⟩ := h
  exact ⟨(List.nodup_cons.mp hnames).2,
    fun r hr r' hr' => htags r (List.mem_cons_of_mem _ hr) r'
      (List.mem_cons_of_mem _ hr'), fun r hr => hsubs r (List.mem_cons_of_mem _ hr)⟩

/-- The entries of one tag are those of one command. -/
theorem IsTable.coherent {table : CommandTable σ ε} (h : IsTable table) (depth : Nat) :
    Coherent (entries depth table) := by
  obtain ⟨hnames, htags, -⟩ := h
  have hcommand : ∀ e ∈ entries depth table, ∀ f ∈ entries depth table, e.tag = f.tag →
      ∃ c : Command σ ε, e = entryOf depth e.name e.tag c ∧
      f = entryOf depth f.name f.tag c := by
    intro e he f hf htag
    obtain ⟨row, hrow, c, hc, rfl⟩ := mem_entries.mp he
    obtain ⟨row', hrow', c', hc', rfl⟩ := mem_entries.mp hf
    exact ⟨c, rfl, htags row hrow row' hrow' c c' hc hc' htag ▸ rfl⟩
  constructor
  case nodup_names =>
    exact hnames.sublist (names_entries_sublist depth table)
  case lineEnd_eq =>
    intro e he f hf htag
    obtain ⟨c, heq, hfeq⟩ := hcommand e he f hf htag
    rw [heq, hfeq]
    rfl
  case below_eq =>
    intro e he f hf htag
    obtain ⟨c, heq, hfeq⟩ := hcommand e he f hf htag
    rw [heq, hfeq]
    rfl

theorem Reordered.entries_perm {table table' : CommandTable σ ε}
    (h : Reordered table table') (htable : IsTable table) (depth : Nat) :
    (entries depth table).Perm (entries depth table') := by
  induction h generalizing depth with
  | nil => exact .refl _
  | vacant _ _ ih =>
      rw [entries_vacant, entries_append, entries_vacant, ← entries_append]
      exact ih htable.of_cons depth
  | @cons name tag action description subs subs' rows behind before _ _ ihsubs ihrows =>
      have hsubs : IsTable subs := by
        obtain ⟨-, -, hsubs⟩ := htable
        exact hsubs _ List.mem_cons_self _ rfl
      have hentry : entryOf depth name tag (.mk action subs description) =
          entryOf depth name tag (.mk action subs' description) := by
        rw [entryOf, entryOf, subLines_eq_usageAt, subLines_eq_usageAt]
        exact congrArg (UsageEntry.mk name tag _)
          (layout_eq_of_perm _ (hsubs.coherent _) (ihsubs hsubs _))
      rw [entries_cons, entries_append, entries_cons, hentry]
      refine ((ihrows htable.of_cons depth).cons _).trans ?_
      rw [entries_append]
      exact List.perm_middle.symm

/-! ## Listings -/

/-- The lines of one command: all its names, and the command. -/
structure Block (σ ε : Type) where
  tag : Nat
  names : List String
  command : Command σ ε

namespace Block

/-- The first name of a command. -/
def first (b : Block σ ε) : String :=
  b.names.headD ""

/-- The line of a command. -/
def line (depth : Nat) (b : Block σ ε) : String :=
  String.join (List.replicate depth "  ") ++ String.intercalate ", " b.names
    ++ lineEnd b.command.action b.command.description ++ "\n"

end Block

/-- A list of blocks with each command of a table exactly once, under all its names in
ascending order. The blocks are in ascending order of their first names. -/
structure IsListing (table : CommandTable σ ε) (blocks : List (Block σ ε)) : Prop where
  nodup_tags : (blocks.map Block.tag).Nodup
  covers : ∀ row ∈ table, ∀ c, row.command = some c → ∃ b ∈ blocks, b.tag = row.tag
  names_ne_nil : ∀ b ∈ blocks, b.names ≠ []
  mem_names : ∀ b ∈ blocks, ∀ name, name ∈ b.names ↔
    ∃ row ∈ table, row.name = name ∧ row.tag = b.tag ∧ row.command = some b.command
  sorted_names : ∀ b ∈ blocks, b.names.Pairwise (· < ·)
  sorted_blocks : blocks.Pairwise fun b c => b.first < c.first

section Listings

variable {table : CommandTable σ ε} {depth : Nat} {commandOf : UsageBlock → Command σ ε}

/-- Whether a collected block is that of a command of the table. -/
def Collects (table : CommandTable σ ε) (depth : Nat) (b : UsageBlock)
    (c : Command σ ε) : Prop :=
  ∃ row ∈ table, row.tag = b.tag ∧ row.command = some c ∧
    b.lineEnd = lineEnd c.action c.description ∧ b.below = usageAt (depth + 1) c.subs

/-- The command of each collected block of a table, given as a function. -/
def Knows (table : CommandTable σ ε) (depth : Nat)
    (commandOf : UsageBlock → Command σ ε) : Prop :=
  ∀ b ∈ Command.blocks (entries depth table), table.Collects depth b (commandOf b)

theorem exists_knows (table : CommandTable σ ε) (depth : Nat) :
    ∃ commandOf, table.Knows depth commandOf := by
  have hcommand : ∀ b : UsageBlock, ∃ c : Command σ ε,
      b ∈ Command.blocks (entries depth table) → table.Collects depth b c := by
    intro b
    by_cases hb : b ∈ Command.blocks (entries depth table)
    · obtain ⟨e, he, htag, hend, hbelow⟩ := exists_entry hb
      obtain ⟨row, hrow, c, hc, rfl⟩ := mem_entries.mp he
      exact ⟨c, fun _ => ⟨row, hrow, htag, hc, hend.symm,
        hbelow.symm.trans (subLines_eq_usageAt depth c)⟩⟩
    · exact ⟨.mk none [] "", fun hmem => absurd hmem hb⟩
  choose commandOf hcommandOf using hcommand
  exact ⟨commandOf, hcommandOf⟩

/-- A collected block as a block of a listing. -/
def blockOf (commandOf : UsageBlock → Command σ ε) (b : UsageBlock) : Block σ ε :=
  ⟨b.tag, b.names, commandOf b⟩

theorem isListing_blockOf (h : IsTable table) (hknows : table.Knows depth commandOf) :
    IsListing table ((Command.blocks (entries depth table)).map
      (blockOf commandOf)) := by
  have hnames := (h.coherent depth).nodup_names
  constructor
  case nodup_tags =>
    rw [List.map_map]
    exact nodup_tags_blocks _
  case covers =>
    intro row hrow c hc
    obtain ⟨b, hb, htag⟩ := exists_block (mem_entries.mpr ⟨row, hrow, c, hc, rfl⟩)
    exact ⟨_, List.mem_map_of_mem hb, htag⟩
  case names_ne_nil =>
    intro _ hmem
    obtain ⟨b, hb, rfl⟩ := List.mem_map.mp hmem
    exact List.ne_nil_of_mem (first_mem_names hb)
  case mem_names =>
    intro _ hmem name
    obtain ⟨b, hb, rfl⟩ := List.mem_map.mp hmem
    obtain ⟨row, hrow, htag, hc, -⟩ := hknows b hb
    obtain ⟨-, htags, -⟩ := h
    refine (mem_names_of_mem_blocks hb).trans ⟨?_, ?_⟩
    · rintro ⟨e, he, hetag, rfl⟩
      obtain ⟨row', hrow', c', hc', rfl⟩ := mem_entries.mp he
      rw [htags row' hrow' row hrow c' _ hc' hc (hetag.trans htag.symm)] at hc'
      exact ⟨row', hrow', rfl, hetag, hc'⟩
    · rintro ⟨row', hrow', rfl, htag', hc'⟩
      exact ⟨_, mem_entries.mpr ⟨row', hrow', _, hc', rfl⟩, htag', rfl⟩
  case sorted_names =>
    intro _ hmem
    obtain ⟨b, hb, rfl⟩ := List.mem_map.mp hmem
    exact pairwise_names hnames hb
  case sorted_blocks =>
    exact List.pairwise_map.mpr (pairwise_blocks hnames)

/-- The usage text of a table goes through a listing of it. -/
theorem exists_listing (h : IsTable table) (depth : Nat) :
    ∃ blocks, IsListing table blocks ∧
    usageAt depth table = String.join (blocks.map fun b =>
      b.line depth ++ usageAt (depth + 1) b.command.subs) := by
  obtain ⟨commandOf, hknows⟩ := exists_knows table depth
  refine ⟨_, isListing_blockOf h hknows, ?_⟩
  rw [usageAt, layout, List.map_map]
  refine congrArg String.join (List.map_congr_left fun b hb => ?_)
  obtain ⟨row, -, -, -, hend, hbelow⟩ := hknows b hb
  dsimp only [Function.comp_apply]
  rw [UsageBlock.text, hend, hbelow]
  rfl

variable {blocks blocks' : List (Block σ ε)}

/-- A block of a listing is that of a row. -/
theorem IsListing.exists_row (hblocks : IsListing table blocks) {b : Block σ ε}
    (hb : b ∈ blocks) :
    ∃ row ∈ table, row.tag = b.tag ∧ row.command = some b.command := by
  obtain ⟨name, hname⟩ := List.exists_mem_of_ne_nil _ (hblocks.names_ne_nil b hb)
  obtain ⟨row, hrow, -, htag, hc⟩ := (hblocks.mem_names b hb name).mp hname
  exact ⟨row, hrow, htag, hc⟩

theorem IsListing.subset (hblocks : IsListing table blocks)
    (hblocks' : IsListing table blocks') (h : IsTable table) : blocks ⊆ blocks' := by
  obtain ⟨-, htags, -⟩ := h
  intro b hb
  obtain ⟨row, hrow, htag, hc⟩ := hblocks.exists_row hb
  obtain ⟨b', hb', htag'⟩ := hblocks'.covers row hrow _ hc
  obtain ⟨row', hrow', htag'', hc'⟩ := hblocks'.exists_row hb'
  have hsametag : b.tag = b'.tag := htag.symm.trans htag'.symm
  have hsame : b.command = b'.command :=
    htags row hrow row' hrow' _ _ hc hc' (htag'.symm.trans htag''.symm)
  have hnames : b.names = b'.names := by
    refine (hblocks.sorted_names b hb).eq_of_mem_iff
      (hblocks'.sorted_names b' hb') fun n => ?_
    rw [hblocks.mem_names b hb, hblocks'.mem_names b' hb', hsametag, hsame]
  have heq : b = b' := by
    cases b
    cases b'
    cases hsametag
    cases hsame
    cases hnames
    rfl
  exact heq ▸ hb'

/-- A table has one listing. -/
theorem IsListing.unique (hblocks : IsListing table blocks)
    (hblocks' : IsListing table blocks') (h : IsTable table) : blocks = blocks' :=
  eq_of_ascending hblocks.sorted_blocks hblocks'.sorted_blocks fun _ =>
    ⟨fun hb => hblocks.subset hblocks' h hb, fun hb => hblocks'.subset hblocks h hb⟩

end Listings

/-! ## Printed texts -/

/-- The texts that are printed for a table: the lines of a listing in order, each
indented by its depth, and behind each line a text that is printed for the sub
commands, one step further in. -/
inductive Prints : Nat → CommandTable σ ε → String → Prop
  | intro {depth : Nat} {table : CommandTable σ ε} {blocks : List (Block σ ε)}
      {below : Block σ ε → String} (hblocks : IsListing table blocks)
      (hbelow : ∀ b ∈ blocks, Prints (depth + 1) b.command.subs (below b)) :
      Prints depth table (String.join (blocks.map fun b => b.line depth ++ below b))

theorem IsListing.isTable_subs {table : CommandTable σ ε} {blocks : List (Block σ ε)}
    (hblocks : IsListing table blocks) (h : IsTable table) {b : Block σ ε}
    (hb : b ∈ blocks) : IsTable b.command.subs := by
  obtain ⟨-, -, hsubs⟩ := h
  obtain ⟨row, hrow, -, hc⟩ := hblocks.exists_row hb
  exact hsubs row hrow _ hc

theorem IsTable.prints {table : CommandTable σ ε} (h : IsTable table) (depth : Nat) :
    Prints depth table (usageAt depth table) := by
  induction h generalizing depth with
  | @intro table hnames htags hsubs ih =>
      obtain ⟨blocks, hblocks, htext⟩ := exists_listing ⟨hnames, htags, hsubs⟩ depth
      rw [htext]
      refine .intro hblocks fun b hb => ?_
      obtain ⟨row, hrow, -, hc⟩ := hblocks.exists_row hb
      exact ih row hrow _ hc (depth + 1)

theorem Prints.eq_usageAt {depth : Nat} {table : CommandTable σ ε} {text : String}
    (hprints : Prints depth table text) (h : IsTable table) :
    text = usageAt depth table := by
  induction hprints with
  | @intro depth table blocks below hblocks _ ih =>
      obtain ⟨blocks', hblocks', htext⟩ := exists_listing h depth
      rw [htext, hblocks'.unique hblocks h]
      refine congrArg String.join (List.map_congr_left fun b hb => ?_)
      rw [ih b hb (hblocks.isTable_subs h hb)]

/-- The usage text does not depend on the order of rows, in the table and in the
tables of sub commands. It is the one text that is printed for the table: each command
stands on one line with all its names in ascending order, the lines of a table are in
ascending order of their first names, and the lines of the sub commands follow that of
their command, one step further in. -/
theorem usage_ignores_row_order (table : CommandTable σ ε) (h : IsTable table) :
    (∀ table', Reordered table table' → table'.usage = table.usage) ∧
    ∀ text, Prints 0 table text ↔ text = table.usage := by
  refine ⟨fun table' hreordered => ?_, fun text =>
    ⟨fun hprints => hprints.eq_usageAt h, ?_⟩⟩
  · exact (layout_eq_of_perm 0 (h.coherent 0) (hreordered.entries_perm h 0)).symm
  · rintro rfl
    exact h.prints 0

theorem isTable_nil : IsTable ([] : CommandTable σ ε) :=
  ⟨.nil, by simp, by simp⟩

/-- A command that does nothing. -/
def idle (description : String) : Command Unit Unit :=
  .mk (some ⟨[], none, fun _ s => (.ok (), s)⟩) [] description

/-- Two names of one command, and a name that stands for no command. -/
def levels : CommandTable Unit Unit :=
  [⟨"low", 7, some (idle "LOW")⟩, ⟨"gone", 3, none⟩, ⟨"high", 7, some (idle "LOW")⟩]

/-- A command with sub commands, and another one with two names. -/
def shell (subs : CommandTable Unit Unit) : CommandTable Unit Unit :=
  [⟨"set", 1, some (.mk none subs "SET")⟩, ⟨"q", 0, some (idle "QUIT")⟩,
    ⟨"exit", 0, some (idle "QUIT")⟩]

/-- The theorem at a table with a table of sub commands, both put into another order. -/
theorem usage_ignores_row_order_nested :
    IsTable (shell levels) ∧ Reordered (shell levels) (shell levels.reverse).reverse ∧
    usage (shell levels.reverse).reverse = usage (shell levels) ∧
    Prints 0 (shell levels) "exit, q\tQUIT\nset\tSET\n  high, low\tLOW\n" := by
  have hlevels : IsTable levels :=
    ⟨by decide, by simp [levels], by simp [levels, idle, subs, isTable_nil]⟩
  have hshell : IsTable (shell levels) :=
    ⟨by simp [shell], by simp [shell], by simp [shell, idle, subs, isTable_nil, hlevels]⟩
  have hreordered : Reordered (shell levels) (shell levels.reverse).reverse := by
    have hsubs : Reordered levels levels.reverse :=
      .cons [_, _] .nil (.vacant [_] (.cons [] .nil .nil))
    exact .cons [_, _] hsubs (.cons [_] .nil (.cons [] .nil .nil))
  obtain ⟨hsame, hprints⟩ := usage_ignores_row_order (shell levels) hshell
  exact ⟨hshell, hreordered, hsame _ hreordered, (hprints _).mpr (by cbv)⟩

end CommandTable

end TapeDuel
