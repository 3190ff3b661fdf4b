import TapeDuel.Log.Record

/-!
# Log lines

A logger writes the records at or above its threshold, one line each, plainly or as
data. Its own attributes stand in every line, before those of the record. Under a
group the names of a record's attributes get the group's name before them; as data
they become a value of their own.
-/

namespace TapeDuel.Log

/-- How records become lines. -/
structure Logger where
  threshold : Level := .info
  /-- Whether lines are data. -/
  asData : Bool := false
  attrs : List Attr := [("app", .text "joust")]
  /-- The group that a record's attributes belong to; empty for none. -/
  group : Text := []

namespace Logger

/-- An attribute in a plain line. -/
def plainAttr (group : Text) (attr : Attr) : Text :=
  let name :=
    if group.isEmpty then bare attr.1
    else
      let before := group ++ [Text.byte '.']
      if needsQuotes before || needsQuotes attr.1 then (before ++ attr.1).quote
      else before ++ attr.1
  name ++ Text.byte '=' :: attr.2.line

/-- A record as a plain line. -/
def plainLine (logger : Logger) (r : Record) : Text :=
  Text.intercalate " "
    (plainAttr [] ("level", .text r.level.describe)
      :: plainAttr [] ("msg", .text r.message)
      :: (counting logger.attrs).map (plainAttr [])
      ++ r.shown.map (plainAttr logger.group))

/-- An attribute in a line of data. -/
def dataAttr (attr : Attr) : Text :=
  dataString false attr.1 ++ Text.byte ':' :: attr.2.data false

/-- Attributes in a pair of braces. -/
def dataBlock (attrs : List Text) : Text :=
  Text.byte '\x7b' :: Text.intercalate "," attrs ++ [Text.byte '\x7d']

/-- A record as a line of data. -/
def dataLine (logger : Logger) (r : Record) : Text :=
  let own := r.shown.map dataAttr
  let grouped :=
    if logger.group.isEmpty then own
    else if own.isEmpty then []
    else [dataString false logger.group ++ Text.byte ':' :: dataBlock own]
  dataBlock
    (dataAttr ("level", .text r.level.describe)
      :: dataAttr ("msg", .text r.message)
      :: (counting logger.attrs).map dataAttr
      ++ grouped)

/-- The lines of records. -/
def lines (logger : Logger) (records : List Record) : List Text :=
  (records.filter fun r => logger.threshold ≤ r.level).map fun r =>
    if logger.asData then logger.dataLine r else logger.plainLine r

end Logger

end TapeDuel.Log
