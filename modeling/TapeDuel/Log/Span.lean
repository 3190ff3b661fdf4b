import TapeDuel.Failure
import TapeDuel.Log.Record

/-!
# Spans

A span marks the records and failures of one piece of work. It is made inside another
span or inside none; the record of its making names the span it belongs under and, if
that is another one, the span that made it.
-/

namespace TapeDuel

namespace Log

/-- A role that another span has, as a name and a value. -/
def spanRole (role : String) (span : Option Span) : List Value :=
  match span with
  | some s => [.text role, .label s]
  | none => []

/-- The record of a new span, made inside `creator` under `parent`. Its arguments are
names and values in turn, and the spans are further ones: behind a name without a
value they are read out of step. -/
def newSpan (creator parent : Option Span) (span : Span) (args : List Value) : Record :=
  let parent := parent <|> creator
  let made := spanRole "creator" (if creator = parent then none else creator)
  { level := .info
    message := "new span"
    attrs := attrsOf (args ++ made ++ spanRole "parent" parent)
    span := some span }

end Log

/-- A failure inside a span, if there is one. -/
def Failure.withSpan (f : Failure) (span : Option Log.Span) : Failure :=
  match span with
  | some s => .inSpan s f
  | none => f

end TapeDuel
