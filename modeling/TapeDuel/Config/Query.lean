import TapeDuel.Config.Loader

/-!
# Queries

A query asks the files of a loader for what stands at a path, as data of some form. It
wants the first answer or several, and it may look at values without insisting that
they can be decoded.
-/

namespace TapeDuel.Config

/-- What a setting is expected to be. -/
inductive Form where
  | int
  | text
  | bool
  | ints
  | texts
deriving DecidableEq, Repr

/-- What a query gives. -/
inductive Datum where
  | int (value : Int)
  | text (value : Text)
  | bool (value : Bool)
  | list (items : List Datum)
  /-- No list at all. -/
  | absent
  /-- A value that is not of the form. -/
  | undecodable

/-- How a query takes what it finds. -/
inductive Want where
  /-- The first answer, or the zero of the form. -/
  | first
  /-- The first answer, which has to be there. -/
  | required
  /-- All answers, at most a number of them. -/
  | all (limit : Option Nat)
  /-- All values as they are, at most a number of them. -/
  | scan (limit : Option Nat)

namespace Form

/-- The data of a form before anything is read. -/
def zero : Form → Datum
  | int => .int 0
  | text => .text []
  | bool => .bool false
  | ints | texts => .absent

/-- A list as data. -/
def listed {α : Type} (item : α → Datum) : Option (List α) → Datum
  | some items => .list (items.map item)
  | none => .absent

/-- A value as data of the form. -/
def decode : Form → Value → Option Datum
  | int, v => v.toInt?.map .int
  | text, v => v.toText?.map .text
  | bool, v => v.toBool?.map .bool
  | ints, v => (v.toList? Value.toInt?).map (listed .int)
  | texts, v => (v.toList? Value.toText?).map (listed .text)

end Form

/-- Answers a query. -/
def Loader.ask (loader : Loader) (form : Form) (want : Want) (path : String) :
    Except Failure Datum :=
  match want with
  | .first => loader.first form.decode form.zero path
  | .required => loader.assignFirst form.decode path
  | .all limit => (loader.all form.decode path limit).map .list
  | .scan limit =>
    (loader.lookup path).map fun found =>
      let found := match limit with
        | some n => found.take n
        | .none => found
      .list (found.map fun (_, v) => (form.decode v).getD .undecodable)

end TapeDuel.Config
