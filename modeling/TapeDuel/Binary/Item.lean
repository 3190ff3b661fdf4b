import TapeDuel.Text.Basic

/-!
# Binary data items

Stored programs are written as self-delimiting binary items (concise binary object
notation). An item starts with a head: three bits of major type, five bits of
additional information, and perhaps a value in one, two, four or eight further bytes.
The reader takes every form that the format allows, within limits on nesting and on
the number of elements; the writer uses the shortest head only.
-/

namespace TapeDuel.Binary

/-- A data item. -/
inductive Item where
  | unsigned (value : Nat)
  /-- The number `-1 - value`. -/
  | negative (value : Nat)
  | bytes (content : Text)
  | text (content : Text)
  | array (items : List Item)
  /-- A map, with its keys and values as they follow each other. -/
  | map (items : List Item)
  | tagged (tag : Nat) (content : Item)
  | simple (value : Nat)
  | float
deriving Repr

/-- The deepest nesting that is read. -/
def maxNesting : Nat := 32

/-- The longest array or map that is read. -/
def maxElements : Nat := 131072

/-! ## Heads -/

/-- The start of an item. -/
structure Head where
  major : Nat
  info : Nat
  value : Nat
deriving DecidableEq, Repr

/-- The number that `width` bytes spell, most significant first, and what follows
them. -/
def readNumber : Nat → Nat → Text → Option (Nat × Text)
  | 0, acc, rest => some (acc, rest)
  | _ + 1, _, [] => none
  | width + 1, acc, b :: rest => readNumber width (256 * acc + b.toNat) rest

/-- The additional information of an item of unknown length. -/
def indefinite : Nat := 31

/-- Reads a head. -/
def readHead : Text → Option (Head × Text)
  | [] => none
  | first :: rest =>
    let major := first.toNat / 32
    let info := first.toNat % 32
    let wide (width : Nat) : Option (Head × Text) :=
      match readNumber width 0 rest with
      | none => none
      | some (value, rest) => some (⟨major, info, value⟩, rest)
    if info < 24 then some (⟨major, info, info⟩, rest)
    else if info = 24 then
      match wide 1 with
      | some (head, rest) =>
          if major = 7 ∧ head.value < 32 then none else some (head, rest)
      | none => none
    else if info = 25 then wide 2
    else if info = 26 then wide 4
    else if info = 27 then wide 8
    else if info = indefinite then
      if major = 0 ∨ major = 1 ∨ major = 6 ∨ major = 7 then none
      else some (⟨major, info, 0⟩, rest)
    else none

/-- The `width` low bytes of a number, most significant first. -/
def numberBytes : Nat → Nat → Text
  | 0, _ => []
  | width + 1, n => numberBytes width (n / 256) ++ [UInt8.ofNat n]

/-- The shortest head with a value below `2^64`. -/
def writeHead (major value : Nat) : Text :=
  if value < 24 then [UInt8.ofNat (32 * major + value)]
  else if value < 256 then UInt8.ofNat (32 * major + 24) :: numberBytes 1 value
  else if value < 65536 then UInt8.ofNat (32 * major + 25) :: numberBytes 2 value
  else if value < 4294967296 then UInt8.ofNat (32 * major + 26) :: numberBytes 4 value
  else UInt8.ofNat (32 * major + 27) :: numberBytes 8 value

/-! ## Items -/

/-- Lengths above `2^63 - 1` are not read. -/
def maxLength : Nat := 9223372036854775807

/-- Takes `length` bytes. -/
def takeBytes (length : Nat) (t : Text) : Option (Text × Text) :=
  if maxLength < length ∨ t.length < length then none
  else some (t.take length, t.drop length)

/-- The byte that ends an item of unknown length. -/
def breakByte : UInt8 := 0xFF

/-- Reads the chunks of a string of unknown length: strings of the same type and of
known length. -/
def readChunks (major : Nat) : Nat → Text → Text → Option (Text × Text)
  | 0, _, _ => none
  | _ + 1, _, [] => none
  | fuel + 1, acc, b :: rest =>
    if b = breakByte then some (acc, rest)
    else
      match readHead (b :: rest) with
      | none => none
      | some (head, rest) =>
        if head.major ≠ major ∨ head.info = indefinite then none
        else
          match takeBytes head.value rest with
          | none => none
          | some (chunk, rest) => readChunks major fuel (acc ++ chunk) rest

/-- Whether the next item is tagged. -/
def startsTagged : Text → Bool
  | [] => false
  | b :: _ => b.toNat / 32 == 6

mutual

/-- Reads one item that stands `depth` levels deep, and returns what follows it. -/
def readItem : Nat → Nat → Text → Option (Item × Text)
  | 0, _, _ => none
  | fuel + 1, depth, t =>
    match readHead t with
    | none => none
    | some (head, rest) =>
      if head.major = 0 then some (.unsigned head.value, rest)
      else if head.major = 1 then some (.negative head.value, rest)
      else if head.major = 2 ∨ head.major = 3 then
        let string := if head.major = 2 then Item.bytes else Item.text
        match
          if head.info = indefinite then readChunks head.major fuel [] rest
          else takeBytes head.value rest with
        | none => none
        | some (content, rest) => some (string content, rest)
      else if head.major = 4 ∨ head.major = 5 then
        let collection := if head.major = 4 then Item.array else Item.map
        let perElement := if head.major = 4 then 1 else 2
        if maxNesting ≤ depth then none
        else if head.info = indefinite then
          match readUntilBreak fuel (depth + 1) rest [] with
          | none => none
          | some (items, rest) =>
            if maxElements < items.length / perElement ∨
                items.length % perElement ≠ 0 then none
            else some (collection items, rest)
        else if maxElements < head.value then none
        else
          match readItems fuel (depth + 1) (perElement * head.value) rest [] with
          | none => none
          | some (items, rest) => some (collection items, rest)
      else if head.major = 6 then
        let depth := if startsTagged rest then depth + 1 else depth
        if maxNesting < depth then none
        else
          match readItem fuel depth rest with
          | none => none
          | some (content, rest) => some (.tagged head.value content, rest)
      else if head.info = 25 ∨ head.info = 26 ∨ head.info = 27 then some (.float, rest)
      else some (.simple head.value, rest)

/-- Reads `count` items. `acc` holds those read before, latest first. -/
def readItems : Nat → Nat → Nat → Text → List Item → Option (List Item × Text)
  | 0, _, _, _, _ => none
  | _ + 1, _, 0, rest, acc => some (acc.reverse, rest)
  | fuel + 1, depth, count + 1, t, acc =>
    match readItem fuel depth t with
    | none => none
    | some (item, rest) => readItems fuel depth count rest (item :: acc)

/-- Reads items up to a break. `acc` holds those read before, latest first. -/
def readUntilBreak : Nat → Nat → Text → List Item → Option (List Item × Text)
  | 0, _, _, _ => none
  | _ + 1, _, [], _ => none
  | fuel + 1, depth, b :: rest, acc =>
    if b = breakByte then some (acc.reverse, rest)
    else
      match readItem fuel depth (b :: rest) with
      | none => none
      | some (item, rest) => readUntilBreak fuel depth rest (item :: acc)

end

/-- Reads the first item of a text. Every item and every end of a list takes a byte,
so twice the length of the text is fuel enough. -/
def read (t : Text) : Option (Item × Text) :=
  readItem (2 * t.length + 2) 0 t

namespace Item

/-- Whether an item is a number, as the content of a tagged time must be. -/
def isNumber : Item → Bool
  | unsigned _ | negative _ | float => true
  | _ => false

/-- An item without the tags that do not change it. Times and large numbers must hold
what their tags promise; a large number keeps its tag. -/
def untagged? : Item → Option Item
  | tagged tag content =>
    if tag = 0 then
      match content with
      | text _ => content.untagged?
      | _ => none
    else if tag = 1 then
      if content.isNumber then content.untagged? else none
    else if tag = 2 ∨ tag = 3 then
      match content with
      | bytes _ => some (tagged tag content)
      | _ => none
    else content.untagged?
  | item => some item

/-- The number that bytes spell. -/
def magnitude (content : Text) : Nat :=
  content.foldl (fun n b => 256 * n + b.toNat) 0

/-- The integer of an item; an empty place counts as zero. Simple values without a
meaning of their own are integers too. -/
def toInt? (item : Item) : Option Int :=
  match item.untagged? with
  | some (unsigned value) => some value
  | some (negative value) => some (-1 - value)
  | some (simple value) =>
    if value < 20 ∨ 32 ≤ value then some value
    else if value = 22 ∨ value = 23 then some 0
    else none
  | some (tagged 2 (bytes content)) => some (magnitude content)
  | some (tagged 3 (bytes content)) => some (-1 - magnitude content)
  | _ => none

/-- The elements of an array; an empty place holds none. -/
def elements? (item : Item) : Option (Option (List Item)) :=
  match item.untagged? with
  | some (array items) => some (some items)
  | some (simple value) => if value = 22 ∨ value = 23 then some none else none
  | _ => none

end Item

end TapeDuel.Binary
