import TapeDuel.Match.Tournament
import TapeDuel.Source.Compile

/-!
# Bots

A bot is a program with its name and the source it was compiled from.
-/

namespace TapeDuel

/-- A program that can play. -/
structure Bot where
  name : String
  source : Text
  program : Program
deriving DecidableEq, Repr

namespace Bot

/-- Compiles a source into a bot. -/
def new (name : String) (source : Text) : Except Failure Bot :=
  match Source.compile ⟨name, source⟩ with
  | .ok program => .ok ⟨name, source, program⟩
  | .error diagnostics => .error (.ofDiagnostics diagnostics)

/-- The bot as it takes part in a tournament. -/
def entry (bot : Bot) : Entry :=
  ⟨bot.name, bot.program⟩

end Bot

end TapeDuel
