import TapeDuel.Ledger.Basic

/-!
# Ledgers in files

A ledger is stored as one binary item behind a mark: an array of its bots and an array
of its games. An empty file is an empty ledger; anything else without the mark is no
ledger.
-/

namespace TapeDuel.Ledger.Stored

open Binary (writeHead writeInt)

/-- What a stored ledger starts with. -/
def mark : Text :=
  "ledger\n"

/-! ## Writing -/

/-- The item of a text. -/
def textItem (t : Text) : Text :=
  writeHead 2 t.length ++ t

/-- The item of a truth value. -/
def flagItem (b : Bool) : Text :=
  writeHead 0 (if b then 1 else 0)

/-- The item of an array, given those of its elements. -/
def arrayItem (items : List Text) : Text :=
  writeHead 4 items.length ++ items.flatten

/-- The item of a bot. -/
def botItem (b : StoredBot) : Text :=
  arrayItem [textItem b.name, textItem b.source, textItem b.program]

/-- The item of a round. -/
def roundItem (r : RoundRecord) : Text :=
  arrayItem [writeInt r.params.tapeLength.toInt, flagItem r.params.inverted,
    writeInt r.params.maxSteps.toInt, flagItem r.verdict.aLost, flagItem r.verdict.bLost,
    writeInt r.steps]

/-- The item of a game, which holds its rounds. -/
def gameItem (l : Ledger) (g : StoredGame) : Text :=
  arrayItem [textItem g.id.write, textItem g.a, textItem g.b, writeInt g.aPoints,
    writeInt g.bPoints, arrayItem ((l.roundsOf g.id).map roundItem)]

/-- A ledger as it is stored. -/
def write (l : Ledger) : Text :=
  mark ++ arrayItem [arrayItem (l.bots.map botItem),
    arrayItem (l.games.map (gameItem l))]

/-! ## Reading -/

/-- The text of an item. -/
def text? : Binary.Item → Option Text
  | .bytes content => some content
  | _ => none

/-- The string of an item. -/
def string? (item : Binary.Item) : Option String :=
  (text? item).bind Text.toString?

/-- The truth value of an item. -/
def flag? (item : Binary.Item) : Option Bool :=
  item.toInt?.map (· ≠ 0)

/-- The bot of an item. -/
def bot? : Binary.Item → Option StoredBot
  | .array [name, source, program] => do
    return ⟨← string? name, ← text? source, ← text? program⟩
  | _ => none

/-- The round of an item. -/
def round? : Binary.Item → Option RoundRecord
  | .array [length, inverted, maxSteps, aLost, bLost, steps] => do
    return ⟨⟨Int64.ofInt (← length.toInt?), ← flag? inverted,
      Int64.ofInt (← maxSteps.toInt?)⟩, ⟨← flag? aLost, ← flag? bLost⟩, ← steps.toInt?⟩
  | _ => none

/-- The game of an item. -/
def game? : Binary.Item → Option (GameId × GameRecord)
  | .array [id, a, b, aPoints, bPoints, .array rounds] => do
    let id ← (GameId.read (← text? id)).toOption
    let rounds ← rounds.mapM round?
    return ⟨id, ← string? a, ← string? b, ← aPoints.toInt?, ← bPoints.toInt?,
      rounds.toArray⟩
  | _ => none

/-- The ledger that a text stores. -/
def read? (t : Text) : Option Ledger :=
  if t.isEmpty then some empty
  else if !mark.isPrefixOf t then none
  else
    match Binary.read (t.drop mark.length) with
    | some (.array [.array bots, .array games], []) => do
      let bots ← bots.mapM bot?
      let games ← games.mapM game?
      return games.foldl (fun l (id, record) => l.addGame id record) { empty with bots }
    | _ => none

end TapeDuel.Ledger.Stored
