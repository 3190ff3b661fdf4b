import TapeDuel.Text.Decimal
import TapeDuel.Text.Quoted

/-!
# Describing settings

The settings in effect are written as the lines of a configuration file: numbers in
decimal, texts quoted.
-/

namespace TapeDuel.Config

/-- The value of a setting. -/
inductive Setting where
  | int (value : Int)
  | text (value : Text)
deriving DecidableEq, Repr

/-- A setting as it is written. -/
def Setting.write : Setting → Text
  | int value => Decimal.writeInt value
  | text value => value.quote

/-- One line for each setting. -/
def describe (settings : List (Text × Setting)) : Text :=
  (settings.map fun (name, value) =>
    name ++ Text.ofString ": " ++ value.write ++ [Text.byte '\n']).flatten

end TapeDuel.Config
