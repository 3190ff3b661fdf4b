import Mathlib
import TapeDuel.App.Options

/-!
# Command lines one behind the other

In a table without sub commands the commands that are known never change, so a command
line is a sequence of commands, each with the words it has claimed. A command whose
arguments are all required claims as many words as it has arguments, whatever these
words are, and an open end claims words up to the next that names a command. Neither
looks any further: what a command claims does not change when words are put behind the
line that do not go on with its open end (`Command.Action.claim_append`). So two command
lines can be put one behind the other if the second starts with the name of a command.

What is called with which arguments is seen in a table that keeps record of its calls
(`CommandTable.recorded`). It does what the table does and only adds to the record
(`CommandTable.execute_recorded`), so what is proved of every table holds for the
records too.
-/

namespace TapeDuel

variable {σ ε : Type}

namespace Command

deriving instance DecidableEq for Misuse

/-! ## What words spell -/

/-- Whether an argument of the type has to be given. -/
def ArgType.isRequired : ArgType → Bool
  | optional _ => false
  | _ => true

/-- Words that spell one argument each, of the types in their order. -/
inductive SpellEach : List ArgType → List String → List Arg → Prop
  | nil : SpellEach [] [] []
  | cons {type : ArgType} {types : List ArgType} {word : String} {words : List String}
      {arg : Arg} {args : List Arg} (hread : type.read word = .ok arg)
      (hrest : SpellEach types words args) :
      SpellEach (type :: types) (word :: words) (arg :: args)

/-- Words that spell the arguments of an action, each word one argument. The arguments of
the open end are handed over together. -/
def Action.Spells (action : Action σ ε) (words : List String) (args : List Arg) : Prop :=
  match action.tail with
  | none => SpellEach action.params words args
  | some type => ∃ own more values others, words = own ++ more ∧
      SpellEach action.params own values ∧
      SpellEach (List.replicate more.length type) more others ∧
      args = values ++ [.many others]

section Claims

variable {name : String} {stops : String → Bool} {type : ArgType} {types : List ArgType}
  {words rest ys : List String} {args : List Arg}

theorem claimEach_of_spellEach (h : SpellEach types words args) :
    (claimEach name types (words ++ rest) : Except (Misuse ε) _) = .ok (args, rest) := by
  induction h with
  | nil => rfl
  | cons hread _ ih =>
      rw [List.cons_append, claimEach, hread]
      dsimp only
      rw [ih]
      rfl

theorem exists_spellEach_of_claimEach (htypes : types.all ArgType.isRequired = true)
    (h : (claimEach name types words : Except (Misuse ε) _) = .ok (args, rest)) :
    ∃ taken, words = taken ++ rest ∧ SpellEach types taken args := by
  induction types generalizing words args with
  | nil =>
      cases h
      exact ⟨[], rfl, .nil⟩
  | cons type types ih =>
      rw [List.all_cons, Bool.and_eq_true] at htypes
      cases words with
      | nil =>
          have hmissing : (claimEach name (type :: types) [] : Except (Misuse ε) _) =
              .error (.missing name type) := by
            cases type <;> first | rfl | cases htypes.1
          rw [hmissing] at h
          cases h
      | cons word words =>
          rw [claimEach] at h
          cases hread : type.read word with
          | error flaw =>
              rw [hread] at h
              cases h
          | ok arg =>
              rw [hread] at h
              dsimp only at h
              cases hclaim : (claimEach name types words : Except (Misuse ε) _) with
              | error misuse =>
                  rw [hclaim] at h
                  cases h
              | ok claimed =>
                  rw [hclaim] at h
                  cases h
                  obtain ⟨taken, rfl, hspell⟩ := ih htypes.2 hclaim
                  exact ⟨word :: taken, rfl, .cons hread hspell⟩

theorem claimTail_of_spellEach
    (hspell : SpellEach (List.replicate words.length type) words args)
    (hgoes : ∀ w ∈ words, stops w = false) (hstops : ∀ w ∈ rest.head?, stops w = true) :
    (claimTail name stops type (words ++ rest) : Except (Misuse ε) _) =
      .ok (args, rest) := by
  induction words generalizing args with
  | nil =>
      cases hspell
      cases rest with
      | nil => rfl
      | cons w rest =>
          rw [List.nil_append, claimTail, if_pos (hstops w rfl)]
  | cons word words ih =>
      obtain ⟨hword, hwords⟩ := List.forall_mem_cons.mp hgoes
      cases hspell with
      | cons hread hrest =>
          rw [List.cons_append, claimTail, if_neg (by simp [hword]), hread]
          dsimp only
          rw [ih hrest hwords]
          rfl

theorem exists_spellEach_of_claimTail
    (h : (claimTail name stops type words : Except (Misuse ε) _) = .ok (args, rest)) :
    ∃ taken, words = taken ++ rest ∧
      SpellEach (List.replicate taken.length type) taken args ∧
      (∀ w ∈ taken, stops w = false) ∧ ∀ w ∈ rest.head?, stops w = true := by
  induction words generalizing args with
  | nil =>
      cases h
      exact ⟨[], rfl, .nil, by simp, by simp⟩
  | cons word words ih =>
      rw [claimTail] at h
      split at h
      · next hstops =>
          cases h
          exact ⟨[], rfl, .nil, by simp, by simpa using hstops⟩
      · next hgoes =>
          cases hread : type.read word with
          | error flaw =>
              rw [hread] at h
              cases h
          | ok arg =>
              rw [hread] at h
              dsimp only at h
              cases hclaim : (claimTail name stops type words : Except (Misuse ε) _) with
              | error misuse =>
                  rw [hclaim] at h
                  cases h
              | ok claimed =>
                  rw [hclaim] at h
                  cases h
                  obtain ⟨taken, rfl, hspell, htaken, hrest⟩ := ih hclaim
                  refine ⟨word :: taken, rfl, .cons hread hspell, ?_, hrest⟩
                  exact List.forall_mem_cons.mpr ⟨by simpa using hgoes, htaken⟩

variable {action : Action σ ε}

/-- An action claims words for its own arguments, and then words for its open end. -/
theorem Action.claim_eq_ok_iff : action.claim name stops words = .ok (args, rest) ↔
    ∃ values behind,
      (claimEach name action.params words : Except (Misuse ε) _) = .ok (values, behind) ∧
      match action.tail with
      | none => args = values ∧ rest = behind
      | some type => ∃ others,
          (claimTail name stops type behind : Except (Misuse ε) _) = .ok (others, rest) ∧
          args = values ++ [.many others] := by
  rw [claim]
  cases (claimEach name action.params words : Except (Misuse ε) _) with
  | error misuse => simp [bind, Except.bind]
  | ok claimed =>
      obtain ⟨values, behind⟩ := claimed
      cases action.tail with
      | none => simp [bind, Except.bind, pure, Except.pure, eq_comm]
      | some type =>
          cases hmore : (claimTail name stops type behind : Except (Misuse ε) _) with
          | error misuse => simp [bind, Except.bind, hmore]
          | ok more =>
              obtain ⟨others, left⟩ := more
              simp only [bind, Except.bind, pure, Except.pure, hmore, Except.ok.injEq,
                Prod.mk.injEq]
              constructor
              · rintro ⟨rfl, rfl⟩
                exact ⟨values, behind, ⟨rfl, rfl⟩, others, hmore.trans rfl, rfl⟩
              · rintro ⟨_, _, ⟨rfl, rfl⟩, others', hothers, rfl⟩
                rw [hmore] at hothers
                cases hothers
                exact ⟨rfl, rfl⟩

/-- The words that an action claims spell its arguments. -/
theorem Action.exists_spells_of_claim
    (hparams : action.params.all ArgType.isRequired = true)
    (h : action.claim name stops words = .ok (args, rest)) :
    ∃ taken, words = taken ++ rest ∧ action.Spells taken args := by
  obtain ⟨values, behind, hown, htail⟩ := claim_eq_ok_iff.mp h
  obtain ⟨own, rfl, hvalues⟩ := exists_spellEach_of_claimEach hparams hown
  unfold Spells
  cases haction : action.tail with
  | none =>
      rw [haction] at htail
      obtain ⟨rfl, rfl⟩ := htail
      exact ⟨own, rfl, hvalues⟩
  | some type =>
      rw [haction] at htail
      obtain ⟨others, hmore, rfl⟩ := htail
      obtain ⟨more, rfl, hothers, -⟩ := exists_spellEach_of_claimTail hmore
      exact ⟨own ++ more, (List.append_assoc ..).symm,
        own, more, values, others, rfl, hvalues, hothers, rfl⟩

/-- What an action claims does not depend on what stands behind the line, as long as that
starts with a word that stops an open end. -/
theorem Action.claim_append (hparams : action.params.all ArgType.isRequired = true)
    (hys : ∀ y ∈ ys.head?, stops y = true)
    (h : action.claim name stops words = .ok (args, rest)) :
    action.claim name stops (words ++ ys) = .ok (args, rest ++ ys) := by
  obtain ⟨values, behind, hown, htail⟩ := claim_eq_ok_iff.mp h
  obtain ⟨own, rfl, hvalues⟩ := exists_spellEach_of_claimEach hparams hown
  rw [claim_eq_ok_iff]
  refine ⟨values, behind ++ ys, ?_, ?_⟩
  · rw [List.append_assoc]
    exact claimEach_of_spellEach hvalues
  · cases haction : action.tail with
    | none =>
        rw [haction] at htail
        exact ⟨htail.1, congrArg (· ++ ys) htail.2⟩
    | some type =>
        rw [haction] at htail
        obtain ⟨others, hmore, hargs⟩ := htail
        obtain ⟨more, rfl, hothers, hgoes, hrest⟩ := exists_spellEach_of_claimTail hmore
        refine ⟨others, ?_, hargs⟩
        rw [List.append_assoc]
        refine claimTail_of_spellEach hothers hgoes fun w hw => ?_
        cases rest with
        | nil => exact hys w hw
        | cons r rest => exact hrest w hw

end Claims

/-! ## Records of calls -/

/-- A call of the action that a name stands for. -/
structure Call where
  name : String
  args : List Arg

/-- The action that also keeps record of its calls. -/
def Action.recorded (name : String) (action : Action σ ε) :
    Action (σ × List Call) ε where
  params := action.params
  tail := action.tail
  run args s :=
    let (result, s') := action.run args s.1
    (result, s', s.2 ++ [⟨name, args⟩])

mutual

/-- The command whose actions also keep record of their calls. -/
def recorded (name : String) : Command σ ε → Command (σ × List Call) ε
  | mk action subs description =>
    mk (action.map (Action.recorded name)) (recordedRows subs) description

/-- The rows whose actions also keep record of their calls. -/
def recordedRows : List (Row (Command σ ε)) → List (Row (Command (σ × List Call) ε))
  | [] => []
  | ⟨name, tag, none⟩ :: rest => ⟨name, tag, none⟩ :: recordedRows rest
  | ⟨name, tag, some command⟩ :: rest =>
    ⟨name, tag, some (command.recorded name)⟩ :: recordedRows rest

end

/-- The row whose actions also keep record of their calls. -/
def recordedRow (row : Row (Command σ ε)) : Row (Command (σ × List Call) ε) :=
  ⟨row.name, row.tag, row.command.map (recorded row.name)⟩

theorem recordedRows_eq_map (rows : List (Row (Command σ ε))) :
    recordedRows rows = rows.map recordedRow := by
  induction rows with
  | nil => rw [recordedRows, List.map_nil]
  | cons row rows ih =>
      obtain ⟨name, tag, command⟩ := row
      cases command <;> rw [recordedRows, List.map_cons, ih] <;> rfl

theorem action_recorded (name : String) (command : Command σ ε) :
    (command.recorded name).action = command.action.map (Action.recorded name) := by
  cases command
  rw [recorded, action, action]

theorem subs_recorded (name : String) (command : Command σ ε) :
    (command.recorded name).subs = command.subs.map recordedRow := by
  cases command
  rw [recorded, subs, subs, recordedRows_eq_map]

theorem Action.claim_recorded (action : Action σ ε) (row name : String)
    (stops : String → Bool) (words : List String) :
    (action.recorded row).claim name stops words = action.claim name stops words :=
  rfl

theorem Action.run_recorded (action : Action σ ε) (name : String) (args : List Arg)
    (s : σ) (before : List Call) :
    (action.recorded name).run args (s, before) =
      ((action.run args s).1, (action.run args s).2, before ++ [⟨name, args⟩]) :=
  rfl

end Command

namespace CommandTable

open Command

/-- The table that also keeps record of all calls. -/
def recorded (table : CommandTable σ ε) : CommandTable (σ × List Call) ε :=
  table.map recordedRow

/-- The calls that a command line makes, in their order. -/
def calls (table : CommandTable σ ε) (words : List String) (s : σ) : List Call :=
  (table.recorded.execute words (s, [])).2.2

theorem find?_recorded (table : CommandTable σ ε) (name : String) :
    table.recorded.find? name = (table.find? name).map recordedRow := by
  rw [find?, recorded, List.find?_map]
  rfl

theorem names_recorded (table : CommandTable σ ε) :
    table.recorded.names = table.names := by
  funext word
  rw [names, find?_recorded, Option.isSome_map, names]

theorem withSubs_recorded (name : String) (subs : List (Row (Command σ ε)))
    (table : CommandTable σ ε) :
    withSubs name (subs.map recordedRow) table.recorded =
      (withSubs name subs table).map recorded := by
  induction subs generalizing table with
  | nil => rfl
  | cons row subs ih =>
      rw [List.map_cons, withSubs, withSubs, find?_recorded, recordedRow]
      cases table.find? row.name with
      | some taken => rfl
      | none =>
          dsimp only [Option.map_none]
          rw [← ih, recorded, recorded, List.map_append]
          rfl

/-! ## One command of a line -/

/-- The row and the command that a word names. -/
structure IsNamed (table : CommandTable σ ε) (word : String) (row : Row (Command σ ε))
    (command : Command σ ε) : Prop where
  find : table.find? (trimBlanks word) = some row
  holds : row.command = some command

section Steps

variable {table : CommandTable σ ε} {word : String} {words rest : List String} {s s' : σ}
  {row : Row (Command σ ε)} {command : Command σ ε} {action : Command.Action σ ε}
  {args : List Arg}

theorem execute_unknown (h : table.find? (trimBlanks word) = none) :
    table.execute (word :: words) s = (.error (.unknown (trimBlanks word)), s) := by
  rw [execute, h]

theorem execute_vacant (hfind : table.find? (trimBlanks word) = some row)
    (hrow : row.command = none) :
    table.execute (word :: words) s = (.error (.vacant (trimBlanks word)), s) := by
  rw [execute, hfind]
  dsimp only
  rw [hrow]

/-- A command without an action claims nothing. -/
theorem execute_group (h : table.IsNamed word row command)
    (haction : command.action = none) :
    table.execute (word :: words) s =
      match withSubs (trimBlanks word) command.subs table with
      | .error misuse => (.error misuse, s)
      | .ok table => table.execute words s := by
  rw [execute, h.find]
  dsimp only
  rw [h.holds]
  dsimp only
  cases hnone : command.action with
  | none => rfl
  | some action => cases haction.symm.trans hnone

/-- A command with an action claims its words, acts and hands on the rest of the line. -/
theorem execute_action (h : table.IsNamed word row command)
    (haction : command.action = some action) :
    table.execute (word :: words) s =
      match action.claim (trimBlanks word) table.names words with
      | .error misuse => (.error misuse, s)
      | .ok (args, rest) =>
        match action.run args s with
        | (.error error, s) => (.error (.failed (trimBlanks word) error), s)
        | (.ok (), s) =>
          match withSubs (trimBlanks word) command.subs table with
          | .error misuse => (.error misuse, s)
          | .ok table => table.execute rest s := by
  rw [execute, h.find]
  dsimp only
  rw [h.holds]
  dsimp only
  rw [haction]
  dsimp only
  cases action.claim (trimBlanks word) table.names words with
  | error misuse => rfl
  | ok claimed => rfl

theorem IsNamed.recorded (h : table.IsNamed word row command) :
    table.recorded.IsNamed word (recordedRow row) (command.recorded row.name) :=
  ⟨by rw [find?_recorded, h.find]; rfl, by rw [recordedRow, h.holds]; rfl⟩

theorem execute_group_recorded (h : table.IsNamed word row command)
    (haction : command.action = none) (before : List Call) :
    table.recorded.execute (word :: words) (s, before) =
      match withSubs (trimBlanks word) command.subs table with
      | .error misuse => (.error misuse, s, before)
      | .ok table => table.recorded.execute words (s, before) := by
  rw [execute_group h.recorded (by rw [action_recorded, haction]; rfl), subs_recorded,
    withSubs_recorded]
  cases withSubs (trimBlanks word) command.subs table <;> rfl

theorem execute_action_recorded (h : table.IsNamed word row command)
    (haction : command.action = some action)
    (hclaim : action.claim (trimBlanks word) table.names words = .ok (args, rest))
    (before : List Call) :
    table.recorded.execute (word :: words) (s, before) =
      match action.run args s with
      | (.error error, s) =>
        (.error (.failed (trimBlanks word) error), s, before ++ [⟨row.name, args⟩])
      | (.ok (), s) =>
        match withSubs (trimBlanks word) command.subs table with
        | .error misuse => (.error misuse, s, before ++ [⟨row.name, args⟩])
        | .ok table =>
            table.recorded.execute rest (s, before ++ [⟨row.name, args⟩]) := by
  rw [execute_action h.recorded (by rw [action_recorded, haction]; rfl),
    Action.claim_recorded, names_recorded, hclaim, subs_recorded, withSubs_recorded]
  dsimp only
  rw [Action.run_recorded]
  rcases action.run args s with ⟨error | ⟨⟩, s'⟩
  · rfl
  · cases withSubs (trimBlanks word) command.subs table <;> rfl

end Steps

/-- Keeping record changes nothing else, and every run only adds to the record. -/
theorem exists_execute_recorded (table : CommandTable σ ε) (words : List String)
    (s : σ) :
    ∃ calls, ∀ before, table.recorded.execute words (s, before) =
      ((table.execute words s).1, (table.execute words s).2, before ++ calls) := by
  induction table, words, s using CommandTable.execute.induct with
  | case1 table s => exact ⟨[], fun before => by simp [execute]⟩
  | case2 table s word words _ hfind =>
      refine ⟨[], fun before => ?_⟩
      rw [execute_unknown hfind, execute_unknown (by rw [find?_recorded, hfind]; rfl),
        List.append_nil]
  | case3 table s word words _ row hfind hrow =>
      refine ⟨[], fun before => ?_⟩
      have hvacant : (recordedRow row).command = none := by rw [recordedRow, hrow]; rfl
      rw [execute_vacant hfind hrow,
        execute_vacant (by rw [find?_recorded, hfind]; rfl) hvacant, List.append_nil]
  | case4 table s word words _ row hfind command hrow haction misuse hsubs =>
      refine ⟨[], fun before => ?_⟩
      rw [execute_group ⟨hfind, hrow⟩ haction,
        execute_group_recorded ⟨hfind, hrow⟩ haction, hsubs, List.append_nil]
  | case5 table s word words _ row hfind command hrow haction table' hsubs ih =>
      obtain ⟨calls, hcalls⟩ := ih
      refine ⟨calls, fun before => ?_⟩
      rw [execute_group ⟨hfind, hrow⟩ haction,
        execute_group_recorded ⟨hfind, hrow⟩ haction, hsubs]
      exact hcalls before
  | case6 table s word words _ row hfind command hrow action haction misuse hclaim =>
      have h : table.IsNamed word row command := ⟨hfind, hrow⟩
      refine ⟨[], fun before => ?_⟩
      rw [execute_action h haction,
        execute_action h.recorded (by rw [action_recorded, haction]; rfl),
        Action.claim_recorded, names_recorded, hclaim, List.append_nil]
  | case7 table s word words _ row hfind command hrow action haction args rest
      hclaim error s₁ hrun =>
      refine ⟨[⟨row.name, args⟩], fun before => ?_⟩
      rw [execute_action ⟨hfind, hrow⟩ haction, hclaim,
        execute_action_recorded ⟨hfind, hrow⟩ haction hclaim]
      dsimp only
      rw [hrun]
  | case8 table s word words _ row hfind command hrow action haction args rest
      hclaim s₁ hrun misuse hsubs =>
      refine ⟨[⟨row.name, args⟩], fun before => ?_⟩
      rw [execute_action ⟨hfind, hrow⟩ haction, hclaim,
        execute_action_recorded ⟨hfind, hrow⟩ haction hclaim]
      dsimp only
      rw [hrun]
      dsimp only
      rw [hsubs]
  | case9 table s word words _ row hfind command hrow action haction args rest
      hclaim s₁ hrun table' hsubs ih =>
      obtain ⟨calls, hcalls⟩ := ih
      refine ⟨⟨row.name, args⟩ :: calls, fun before => ?_⟩
      rw [execute_action ⟨hfind, hrow⟩ haction, hclaim,
        execute_action_recorded ⟨hfind, hrow⟩ haction hclaim]
      dsimp only
      rw [hrun]
      dsimp only
      rw [hsubs]
      dsimp only
      rw [hcalls, List.append_assoc, List.singleton_append]

theorem execute_recorded (table : CommandTable σ ε) (words : List String) (s : σ)
    (before : List Call) :
    table.recorded.execute words (s, before) =
      ((table.execute words s).1, (table.execute words s).2,
        before ++ table.calls words s) := by
  obtain ⟨calls, hcalls⟩ := exists_execute_recorded table words s
  rw [CommandTable.calls, hcalls, hcalls, List.nil_append]

/-! ## Tables without sub commands -/

/-- Whether the command of a row has no sub commands, and no arguments that need not be
given. -/
def isFlatRow (row : Row (Command σ ε)) : Bool :=
  row.command.all fun command =>
    command.subs.isEmpty && command.action.all fun action =>
      action.params.all ArgType.isRequired

/-- Whether no command has sub commands, or arguments that need not be given. -/
def isFlat (table : CommandTable σ ε) : Bool :=
  table.all isFlatRow

theorem isFlatRow_recordedRow (row : Row (Command σ ε)) :
    isFlatRow (recordedRow row) = isFlatRow row := by
  rw [isFlatRow, isFlatRow, recordedRow, Option.all_map]
  refine congrArg (row.command.all ·) (funext fun command => ?_)
  rw [subs_recorded, action_recorded, Option.all_map, List.isEmpty_map]
  rfl

theorem isFlat_recorded (table : CommandTable σ ε) :
    table.recorded.isFlat = table.isFlat := by
  rw [isFlat, isFlat, recorded, List.all_map]
  exact congrArg table.all (funext isFlatRow_recordedRow)

/-- How the words of a line are used, and which calls are made of them: each word names a
command, or it is one argument of the command before it. -/
inductive Uses (table : CommandTable σ ε) : List String → List Call → Prop
  | nil : Uses table [] []
  | group {word : String} {row : Row (Command σ ε)} {command : Command σ ε}
      {words : List String} {calls : List Call} (hnamed : table.IsNamed word row command)
      (haction : command.action = none) (hrest : Uses table words calls) :
      Uses table (word :: words) calls
  | call {word : String} {row : Row (Command σ ε)} {command : Command σ ε}
      {action : Command.Action σ ε} {taken words : List String} {args : List Arg}
      {calls : List Call}
      (hnamed : table.IsNamed word row command) (haction : command.action = some action)
      (hspells : action.Spells taken args) (hrest : Uses table words calls) :
      Uses table (word :: (taken ++ words)) (⟨row.name, args⟩ :: calls)

section Flat

variable {table : CommandTable σ ε} {word : String} {words rest xs ys : List String}
  {s s₁ s' : σ} {row : Row (Command σ ε)} {command : Command σ ε}
  {action : Command.Action σ ε} {args : List Arg}

theorem IsNamed.isFlat (h : table.IsNamed word row command)
    (hflat : table.isFlat = true) :
    command.subs = [] ∧
      ∀ action, command.action = some action →
        action.params.all ArgType.isRequired = true := by
  have hrow := List.all_eq_true.mp hflat row (List.mem_of_find?_eq_some h.find)
  rw [isFlatRow, h.holds, Option.all_some, Bool.and_eq_true, List.isEmpty_iff] at hrow
  refine ⟨hrow.1, fun action haction => ?_⟩
  have hparams := hrow.2
  rwa [haction] at hparams

theorem execute_group_of_isFlat (hflat : table.isFlat = true)
    (h : table.IsNamed word row command) (haction : command.action = none) :
    table.execute (word :: words) s = table.execute words s := by
  rw [execute_group h haction, (h.isFlat hflat).1]
  rfl

theorem execute_action_of_isFlat (hflat : table.isFlat = true)
    (h : table.IsNamed word row command) (haction : command.action = some action)
    (hclaim : action.claim (trimBlanks word) table.names words = .ok (args, rest))
    (hrun : action.run args s = (.ok (), s₁)) :
    table.execute (word :: words) s = table.execute rest s₁ := by
  rw [execute_action h haction, hclaim, (h.isFlat hflat).1]
  dsimp only
  rw [hrun]
  rfl

/-- A line that is run to its end, command after command. -/
inductive Runs (table : CommandTable σ ε) : List String → σ → σ → Prop
  | nil (s : σ) : Runs table [] s s
  | group {word : String} {row : Row (Command σ ε)} {command : Command σ ε}
      {words : List String} {s s' : σ} (hnamed : table.IsNamed word row command)
      (haction : command.action = none) (hrest : Runs table words s s') :
      Runs table (word :: words) s s'
  | call {word : String} {row : Row (Command σ ε)} {command : Command σ ε}
      {action : Command.Action σ ε} {words rest : List String} {args : List Arg}
      {s s₁ s' : σ}
      (hnamed : table.IsNamed word row command) (haction : command.action = some action)
      (hclaim : action.claim (trimBlanks word) table.names words = .ok (args, rest))
      (hrun : action.run args s = (.ok (), s₁)) (hrest : Runs table rest s₁ s') :
      Runs table (word :: words) s s'

theorem runs_of_execute (hflat : table.isFlat = true)
    (h : table.execute xs s = (.ok (), s')) : table.Runs xs s s' := by
  induction table, xs, s using CommandTable.execute.induct with
  | case1 table s =>
      rw [execute] at h
      cases h
      exact .nil _
  | case2 table s word words _ hfind =>
      rw [execute_unknown hfind] at h
      cases h
  | case3 table s word words _ row hfind hrow =>
      rw [execute_vacant hfind hrow] at h
      cases h
  | case4 table s word words _ row hfind command hrow haction misuse hsubs =>
      rw [execute_group ⟨hfind, hrow⟩ haction, hsubs] at h
      cases h
  | case5 table s word words _ row hfind command hrow haction table' hsubs ih =>
      have hnamed : table.IsNamed word row command := ⟨hfind, hrow⟩
      rw [execute_group_of_isFlat hflat hnamed haction] at h
      rw [(hnamed.isFlat hflat).1] at hsubs
      cases hsubs
      exact .group hnamed haction (ih hflat h)
  | case6 table s word words _ row hfind command hrow action haction misuse hclaim =>
      rw [execute_action ⟨hfind, hrow⟩ haction, hclaim] at h
      cases h
  | case7 table s word words _ row hfind command hrow action haction args rest
      hclaim error s₁ hrun =>
      rw [execute_action ⟨hfind, hrow⟩ haction, hclaim] at h
      dsimp only at h
      rw [hrun] at h
      cases h
  | case8 table s word words _ row hfind command hrow action haction args rest
      hclaim s₁ hrun misuse hsubs =>
      rw [((IsNamed.mk hfind hrow).isFlat hflat).1] at hsubs
      cases hsubs
  | case9 table s word words _ row hfind command hrow action haction args rest
      hclaim s₁ hrun table' hsubs ih =>
      have hnamed : table.IsNamed word row command := ⟨hfind, hrow⟩
      rw [execute_action_of_isFlat hflat hnamed haction hclaim hrun] at h
      rw [(hnamed.isFlat hflat).1] at hsubs
      cases hsubs
      exact .call hnamed haction hclaim hrun (ih hflat h)

/-- Behind a line that is run to its end the next line is run as if it stood alone. -/
theorem Runs.execute_append (hflat : table.isFlat = true) (h : table.Runs xs s s')
    (hys : ∀ y ∈ ys.head?, table.names y = true) :
    table.execute (xs ++ ys) s = table.execute ys s' := by
  induction h with
  | nil s => rfl
  | group hnamed haction _ ih =>
      rw [List.cons_append, execute_group_of_isFlat hflat hnamed haction, ih]
  | call hnamed haction hclaim hrun _ ih =>
      have hmore := Action.claim_append ((hnamed.isFlat hflat).2 _ haction) hys hclaim
      rw [List.cons_append, execute_action_of_isFlat hflat hnamed haction hmore hrun, ih]

theorem Runs.uses (hflat : table.isFlat = true) (h : table.Runs xs s s') :
    table.Uses xs (table.calls xs s) := by
  induction h with
  | nil s =>
      rw [calls, execute]
      exact .nil
  | @group word row command words s s' hnamed haction _ ih =>
      have hcalls : table.calls (word :: words) s = table.calls words s := by
        rw [calls, execute_group_recorded hnamed haction, (hnamed.isFlat hflat).1]
        rfl
      rw [hcalls]
      exact .group hnamed haction ih
  | @call word row command action words rest args s s₁ s' hnamed haction hclaim
      hrun _ ih =>
      have hcalls : table.calls (word :: words) s =
          ⟨row.name, args⟩ :: table.calls rest s₁ := by
        rw [calls, execute_action_recorded hnamed haction hclaim, hrun,
          (hnamed.isFlat hflat).1]
        dsimp only [withSubs]
        rw [execute_recorded]
        rfl
      obtain ⟨taken, rfl, hspells⟩ :=
        Action.exists_spells_of_claim ((hnamed.isFlat hflat).2 _ haction) hclaim
      rw [hcalls]
      exact .call hnamed haction hspells ih

/-- Command lines compose. In a table without sub commands whose commands need all
their arguments, with an open end or without, take a line that is run to its end, and
put behind it another line that is empty or starts with the name of a command. The
whole does what the first line does and then what the second does: it makes the same
calls with the same arguments in the same order, leaves the same state and ends as the
second line ends. And each word of a line that is run to its end is used exactly once,
as the name of a command or as one argument. -/
theorem command_lines_compose (table : CommandTable σ ε) (hflat : table.isFlat = true)
    (xs ys : List String) (s s' : σ) (hxs : table.execute xs s = (.ok (), s'))
    (hys : ∀ y ∈ ys.head?, table.names y = true) :
    table.execute (xs ++ ys) s = table.execute ys s' ∧
    table.calls (xs ++ ys) s = table.calls xs s ++ table.calls ys s' ∧
    table.Uses xs (table.calls xs s) := by
  refine ⟨(runs_of_execute hflat hxs).execute_append hflat hys, ?_,
    (runs_of_execute hflat hxs).uses hflat⟩
  have hrecorded : table.recorded.execute xs (s, []) =
      (.ok (), s', table.calls xs s) := by
    rw [execute_recorded, hxs, List.nil_append]
  have hflat' : table.recorded.isFlat = true := (isFlat_recorded table).trans hflat
  have happend := (runs_of_execute hflat' hrecorded).execute_append hflat'
    (by rwa [names_recorded])
  rw [calls, happend, execute_recorded]

end Flat

/-- The theorem at a line of the program's own commands: an open end stops at a flag, and
the flag takes the name of a command as its argument. -/
theorem command_lines_compose_hill :
    App.table.isFlat = true ∧
    App.table.execute ["hill", "a.bf", "b.bf", "-script", "fight"] {} =
      (.ok (), { options := { script := "fight" }, jobs := [.hill ["a.bf", "b.bf"]] }) ∧
    App.table.names " fight " = true ∧
    App.table.execute
        ["hill", "a.bf", "b.bf", "-script", "fight", " fight ", "c.bf"] {} =
      (.error (.missing "fight" .string),
        { options := { script := "fight" }, jobs := [.hill ["a.bf", "b.bf"]] }) := by
  have hflat : App.table.isFlat = true := by decide +kernel
  have hline : App.table.execute ["hill", "a.bf", "b.bf", "-script", "fight"] {} =
      (.ok (),
        { options := { script := "fight" }, jobs := [.hill ["a.bf", "b.bf"]] }) := by
    decide +kernel
  have hname : App.table.names " fight " = true := by decide +kernel
  obtain ⟨happend, -, -⟩ :=
    command_lines_compose App.table hflat _ [" fight ", "c.bf"] _ _ hline
    (by rintro y ⟨⟩; exact hname)
  exact ⟨hflat, hline, hname, happend.trans (by decide +kernel)⟩

end CommandTable

end TapeDuel
