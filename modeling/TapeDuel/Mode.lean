/-!
# Modes

The program runs in production, or in development, where it keeps away from proxies. A
mode is stored as a small number, and most numbers are no mode.
-/

namespace TapeDuel

/-- How the program runs. -/
inductive Mode where
  | production
  | development
  | unknown
deriving DecidableEq, Repr

namespace Mode

/-- The mode behind a number. -/
def ofCode (code : UInt8) : Mode :=
  if code = 1 then production else if code = 2 then development else unknown

/-- A mode in words. -/
def describe : Mode → String
  | production => "production"
  | development => "development"
  | unknown => "unknown"

end Mode

end TapeDuel
