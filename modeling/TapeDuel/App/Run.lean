import TapeDuel.App.Jobs

/-!
# Runs of the program

A run reads its command line, then does its jobs in order, up to the first that fails.
How it ended shows in the exit code: zero if all went well, one if a job failed, two
if the command line was wrong or the program was left where it stood.
-/

namespace TapeDuel.App

open Log (Record)

/-- How a run ends. -/
inductive Ending where
  | done
  /-- The usage text was asked for. -/
  | usage
  /-- Nothing was asked for. -/
  | idle
  | misused (words : Text)
  | failed (failure : Failure)

namespace Ending

/-- The exit code of a run. -/
def exitCode : Ending → UInt8
  | done | usage => 0
  | idle | misused _ => 2
  | failed failure => if failure.isCrash then 2 else 1

/-- What a run says about its end. -/
def words : Ending → Text
  | done => []
  | usage | idle => table.usage
  | misused words => words ++ [Text.byte '\n']
  | failed failure =>
      if failure.isCrash then "panic\n" else failure.message ++ [Text.byte '\n']

end Ending

/-- Does jobs in order, up to the first that fails. -/
def workAll (w : Surroundings) (o : Options) : List Job → Work Unit
  | [] => pure ()
  | job :: rest => do
    w.work o job
    workAll w o rest

/-- What a command line asks for, or how the run ends at once. -/
def readArguments (words : List String) : Except Ending Invocation :=
  match table.execute words {} with
  | (.error (.failed _ .usage), _) => .error .usage
  | (.error misuse, _) => .error (.misused (misuse.message fun _ => []))
  | (.ok (), invocation) =>
      if invocation.jobs.isEmpty then .error .idle else .ok invocation

/-- The records of finding configuration files and a proxy. -/
def startRecords (w : Surroundings) (o : Options) : List Record :=
  w.config.2
    ++ match w.proxy o with
      | .ok (_, records) => records
      | .error _ => []

/-- Runs the program on the words of a command line. -/
def run (w : Surroundings) (words : List String) (session : Session) :
    Ending × Session :=
  match readArguments words with
  | .error ending => (ending, session)
  | .ok invocation =>
    let o := invocation.options
    let start := { session with logged := (startRecords w o).reverse ++ session.logged }
    match (workAll w o invocation.jobs).run.run start with
    | (.ok (), session) => (.done, session)
    | (.error failure, session) => (.failed failure, session)

/-- What a session has printed. -/
def Session.output (s : Session) : Text :=
  s.printed.reverse.flatten

end TapeDuel.App
