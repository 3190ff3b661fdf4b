/-!
# Precedence

A setting can be given in several places, and each place may leave it at zero, which
counts as not given. The first place that gives it decides.
-/

namespace TapeDuel

/-- The first value that is not `zero`; `zero` if there is none. -/
def firstGiven {α : Type} [DecidableEq α] (zero : α) (values : List α) : α :=
  (values.find? fun value => value ≠ zero).getD zero

end TapeDuel
