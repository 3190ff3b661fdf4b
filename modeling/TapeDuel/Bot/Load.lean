import TapeDuel.Bot.Basic
import TapeDuel.Bot.Reference
import TapeDuel.Host.FileTree
import TapeDuel.Log.Record

/-!
# Loading bots

The source of a bot comes from a file or from the web, as its reference says. What
cannot be read fails under the reference; what does not compile fails with its
diagnostics alone.
-/

namespace TapeDuel.Bot

open Log (Record)

/-- Where sources come from. -/
structure Library where
  file : String → Except FileFlaw Text
  /-- Fetches an address, with the records of doing so. -/
  web : String → Except Failure Text × List Record

/-- The source behind a reference. -/
def Library.source (library : Library) (reference : String) :
    Except Failure Text × List Record :=
  if isUrl reference then library.web reference
  else ((library.file reference).mapError (FileFlaw.failure reference), [])

/-- The record of a loaded bot. -/
def loadedRecord (reference : String) (bot : Bot) : Record :=
  { level := .debug
    message := "bot loaded"
    attrs := [("ref", .text reference), ("name", .text bot.name),
      ("instructions", .int bot.program.size)] }

/-- Loads the bot behind a reference. -/
def load (library : Library) (reference : String) : Except Failure Bot × List Record :=
  match library.source reference with
  | (.error failure, records) =>
      (.error (.within s!"load bot {reference}" failure), records)
  | (.ok source, records) =>
    match new (nameOf reference) source with
    | .error failure => (.error failure, records)
    | .ok bot => (.ok bot, records ++ [loadedRecord reference bot])

/-- Loads bots up to the first that fails. -/
def loadAll (library : Library) : List String → Except Failure (List Bot) × List Record
  | [] => (.ok [], [])
  | reference :: rest =>
    match load library reference with
    | (.error failure, records) => (.error failure, records)
    | (.ok bot, records) =>
      match loadAll library rest with
      | (.error failure, more) => (.error failure, records ++ more)
      | (.ok bots, more) => (.ok (bot :: bots), records ++ more)

end TapeDuel.Bot
