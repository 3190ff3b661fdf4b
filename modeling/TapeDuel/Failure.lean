import TapeDuel.Engine.Arena
import TapeDuel.Source.Diagnostic

/-!
# Failures

Whatever can go wrong above the engine is a `Failure`: a cause, perhaps with words of
context before it or a span behind it, or several failures joined. A failure keeps its
structure, so a caller can ask for the diagnostics inside it; only `Failure.message`
makes text of it.
-/

namespace TapeDuel

/-- What is wrong with stored bytes that should hold a program. -/
inductive Corruption where
  /-- The bytes are no item at all. -/
  | malformed
  /-- Bytes follow the item. -/
  | extraneous
  /-- The item is not a program. -/
  | unfit
deriving DecidableEq, Repr

/-- A failure and how it came up. -/
inductive Failure where
  | diagnostic (d : Diagnostic)
  | badProgram (flaw : Program.Flaw)
  | badRound (flaw : RoundParams.Flaw)
  | corrupt (corruption : Corruption)
  | duplicatedEntry (name : String)
  | canceled
  /-- The engine was left. -/
  | fault (fault : Fault)
  | notFound
  | noLedger
  | ledgerUnopened (why : String)
  | transactionDone
  | valueNotFound
  /-- A file does not exist; the text names the call that found out. -/
  | missingFile (call : String)
  /-- A configuration file or schema is wrong, or a value of it does not fit. -/
  | badConfig
  /-- A script is wrong. -/
  | badScript (text : Text)
  | fetchTooLarge (limit : Nat)
  | plain (text : String)
  | within (context : String) (inner : Failure)
  | inSpan (span : String) (inner : Failure)
  /-- A failure that ends the program where it stands. -/
  | crash (inner : Failure)
  | join (members : List Failure)
deriving Repr

namespace Failure

mutual

/-- A failure in words. -/
def message : Failure → Text
  | diagnostic d => d.message
  | badProgram flaw => flaw.message
  | badRound flaw => flaw.message
  | corrupt _ => "stored program is damaged"
  | duplicatedEntry name => s!"duplicated entry: {name}"
  | canceled => "context canceled"
  | fault _ => "index out of range"
  | notFound => "not found"
  | noLedger => "no ledger configured"
  | ledgerUnopened why => why
  | transactionDone => "sql: transaction has already been committed or rolled back"
  | valueNotFound => "value not found"
  | missingFile call => s!"{call}: no such file or directory"
  | badConfig => "bad configuration"
  | badScript text => text
  | fetchTooLarge limit => s!"response larger than {limit} bytes"
  | plain text => text
  | within context inner => Text.ofString s!"{context}: " ++ inner.message
  | inSpan span inner => inner.message ++ Text.ofString s!" (span {span})"
  | crash inner => inner.message
  | join members => Text.intercalate [Text.byte '\n'] (messages members)

/-- Failures in words. -/
def messages : List Failure → List Text
  | [] => []
  | f :: rest => f.message :: messages rest

end

mutual

/-- The first diagnostic inside a failure, depth first. -/
def firstDiagnostic? : Failure → Option Diagnostic
  | diagnostic d => some d
  | within _ inner | inSpan _ inner | crash inner => inner.firstDiagnostic?
  | join members => firstDiagnosticOf? members
  | _ => none

/-- The first diagnostic inside one of several failures. -/
def firstDiagnosticOf? : List Failure → Option Diagnostic
  | [] => none
  | f :: rest => f.firstDiagnostic? <|> firstDiagnosticOf? rest

end

mutual

/-- The diagnostics of a failure. A join has those of all its members; below words of
context only the first is found. -/
def diagnostics : Failure → List Diagnostic
  | join members => diagnosticsOf members
  | f => f.firstDiagnostic?.toList

/-- The diagnostics of several failures. -/
def diagnosticsOf : List Failure → List Diagnostic
  | [] => []
  | f :: rest => f.diagnostics ++ diagnosticsOf rest

end

/-- The failure of a source that does not compile: one diagnostic stands alone,
several are joined. -/
def ofDiagnostics : List Diagnostic → Failure
  | [d] => diagnostic d
  | ds => join (ds.map diagnostic)

/-- What failed among several results. -/
def ofResults {α : Type} (results : List (Except Failure α)) : List Failure :=
  results.filterMap fun r =>
    match r with
    | .error failure => some failure
    | .ok _ => none

/-- All results, or the joined failures. -/
def together {α : Type} (results : List (Except Failure α)) : Except Failure (List α) :=
  match ofResults results with
  | [] => .ok (results.filterMap Except.toOption)
  | [failure] => .error failure
  | failures => .error (.join failures)

mutual

/-- The causes inside a failure, depth first, without words of context. -/
def causes : Failure → List Failure
  | within _ inner | inSpan _ inner | crash inner => inner.causes
  | join members => causesOf members
  | f => [f]

/-- The causes inside several failures. -/
def causesOf : List Failure → List Failure
  | [] => []
  | f :: rest => f.causes ++ causesOf rest

end

/-- Whether the failure ends the program where it stands. -/
def isCrash : Failure → Bool
  | crash _ | fault _ => true
  | within _ inner | inSpan _ inner => inner.isCrash
  | _ => false

end Failure

end TapeDuel
