import TapeDuel.Command.Table

/-!
# Running a command line

A command line is a list of words. The first word names a command; the command claims
the words it needs as arguments, acts, and the next word is again a name. An argument
takes its word even if that word names a command; only the open end of an argument
list stops at one. Once a command with sub commands has run, their names are known for
the rest of the line.
-/

namespace TapeDuel

namespace Command

variable {σ ε : Type}

/-- What is wrong with a command line. -/
inductive Misuse (ε : Type) where
  | unknown (name : String)
  /-- A name that is held for no command. -/
  | vacant (name : String)
  | missing (name : String) (type : ArgType)
  | unread (name : String) (flaw : ArgFlaw)
  | failed (name : String) (error : ε)
  | duplicated (name sub : String)
deriving Repr

/-- A misuse in words, given the words of what actions fail with. -/
def Misuse.message (words : ε → Text) : Misuse ε → Text
  | unknown name => Text.ofString s!"unknown command: {name}"
  | vacant _ => Text.ofString "no command"
  | missing name type =>
      Text.ofString s!"{name}: expecting {type.name} argument, got nothing"
  | unread name flaw => Text.ofString s!"{name}: " ++ flaw.message
  | failed name error => Text.ofString s!"{name}: " ++ words error
  | duplicated name sub => Text.ofString s!"duplicated sub command: {name} {sub}"

/-- Claims one word for each of the types. -/
def claimEach (name : String) :
    List ArgType → List String → Except (Misuse ε) (List Arg × List String)
  | [], words => .ok ([], words)
  | .optional of :: types, [] => do
    let (args, rest) ← claimEach name types []
    return (.optional (some of.zero) :: args, rest)
  | type :: _, [] => .error (.missing name type)
  | type :: types, word :: words =>
    match type.read word with
    | .error flaw => .error (.unread name flaw)
    | .ok arg => do
      let (args, rest) ← claimEach name types words
      return (arg :: args, rest)

/-- Claims words of one type up to the first that names a command. -/
def claimTail (name : String) (stops : String → Bool) (type : ArgType) :
    List String → Except (Misuse ε) (List Arg × List String)
  | [] => .ok ([], [])
  | word :: words =>
    if stops word then .ok ([], word :: words)
    else
      match type.read word with
      | .error flaw => .error (.unread name flaw)
      | .ok arg => do
        let (args, rest) ← claimTail name stops type words
        return (arg :: args, rest)

/-- Claims the words of an action, and gives its arguments and the words that are
left. -/
def Action.claim (action : Action σ ε) (name : String) (stops : String → Bool)
    (words : List String) : Except (Misuse ε) (List Arg × List String) := do
  let (args, rest) ← claimEach name action.params words
  match action.tail with
  | none => return (args, rest)
  | some type =>
    let (more, rest) ← claimTail name stops type rest
    return (args ++ [.many more], rest)

theorem length_claimEach {name : String} :
    ∀ {types : List ArgType} {words rest : List String} {args : List Arg},
      (claimEach name types words : Except (Misuse ε) _) = .ok (args, rest) →
        rest.length ≤ words.length := by
  intro types
  induction types with
  | nil =>
    intro words rest args h
    simp only [claimEach, Except.ok.injEq, Prod.mk.injEq] at h
    simp [h.2]
  | cons type types ih =>
    intro words rest args h
    cases words with
    | nil =>
      cases type <;> simp only [claimEach, reduceCtorEq] at h
      next of =>
        cases hc : (claimEach name types [] : Except (Misuse ε) _) with
        | error e => simp [hc, bind, Except.bind] at h
        | ok r =>
          simp only [hc, bind, Except.bind, pure, Except.pure, Except.ok.injEq,
            Prod.mk.injEq] at h
          exact h.2 ▸ ih hc
    | cons word words =>
      simp only [claimEach] at h
      split at h
      · simp at h
      · next arg _ =>
        cases hc : (claimEach name types words : Except (Misuse ε) _) with
        | error e => simp [hc, bind, Except.bind] at h
        | ok r =>
          simp only [hc, bind, Except.bind, pure, Except.pure, Except.ok.injEq,
            Prod.mk.injEq] at h
          have := ih hc
          rw [← h.2]
          simp only [List.length_cons]
          omega

theorem length_claimTail {name : String} {stops : String → Bool} {type : ArgType} :
    ∀ {words rest : List String} {args : List Arg},
    (claimTail name stops type words : Except (Misuse ε) _) = .ok (args, rest) →
    rest.length ≤ words.length := by
  intro words
  induction words with
  | nil =>
    intro rest args h
    simp only [claimTail, Except.ok.injEq, Prod.mk.injEq] at h
    simp [← h.2]
  | cons word words ih =>
    intro rest args h
    simp only [claimTail] at h
    split at h
    · simp only [Except.ok.injEq, Prod.mk.injEq] at h
      simp [← h.2]
    · split at h
      · simp at h
      · next arg _ =>
        cases hc : (claimTail name stops type words : Except (Misuse ε) _) with
        | error e => simp [hc, bind, Except.bind] at h
        | ok r =>
          simp only [hc, bind, Except.bind, pure, Except.pure, Except.ok.injEq,
            Prod.mk.injEq] at h
          have := ih hc
          rw [← h.2]
          simp only [List.length_cons]
          omega

/-- No action claims more words than there are. -/
theorem Action.length_claim {action : Action σ ε} {name : String} {stops : String → Bool}
    {words rest : List String} {args : List Arg}
    (h : action.claim name stops words = .ok (args, rest)) :
    rest.length ≤ words.length := by
  simp only [Action.claim] at h
  cases hc : (claimEach name action.params words : Except (Misuse ε) _) with
  | error e => simp [hc, bind, Except.bind] at h
  | ok r =>
    have hr := length_claimEach hc
    simp only [hc, bind, Except.bind] at h
    cases ht : action.tail with
    | none =>
      simp only [ht, pure, Except.pure, Except.ok.injEq, Prod.mk.injEq] at h
      rw [← h.2]
      exact hr
    | some type =>
      simp only [ht] at h
      cases hd : (claimTail name stops type r.2 : Except (Misuse ε) _) with
      | error e => simp [hd] at h
      | ok q =>
        simp only [hd, pure, Except.pure, Except.ok.injEq, Prod.mk.injEq] at h
        have := length_claimTail hd
        rw [← h.2]
        omega

end Command

namespace CommandTable

open Command

variable {σ ε : Type}

/-- The table with the sub commands of `name` added to it. -/
def withSubs (name : String) :
    List (Row (Command σ ε)) → CommandTable σ ε → Except (Misuse ε) (CommandTable σ ε)
  | [], table => .ok table
  | row :: rows, table =>
    match table.find? row.name with
    | some _ => .error (.duplicated name row.name)
    | none => withSubs name rows (table ++ [row])

/-- Runs a command line to its end or to its first misuse. What was done before a
misuse stays done. -/
def execute (table : CommandTable σ ε) (words : List String) (s : σ) :
    Except (Misuse ε) Unit × σ :=
  match words with
  | [] => (.ok (), s)
  | word :: words =>
    let name := trimBlanks word
    match table.find? name with
    | none => (.error (.unknown name), s)
    | some row =>
      match row.command with
      | none => (.error (.vacant name), s)
      | some command =>
        match command.action with
        | none =>
          match withSubs name command.subs table with
          | .error misuse => (.error misuse, s)
          | .ok table => execute table words s
        | some action =>
          match _hclaim : action.claim name table.names words with
          | .error misuse => (.error misuse, s)
          | .ok (args, rest) =>
            match action.run args s with
            | (.error error, s) => (.error (.failed name error), s)
            | (.ok (), s) =>
              match withSubs name command.subs table with
              | .error misuse => (.error misuse, s)
              | .ok table => execute table rest s
termination_by words.length
decreasing_by
  · simp
  · have := Action.length_claim _hclaim
    simp only [List.length_cons]
    omega

end CommandTable

end TapeDuel
