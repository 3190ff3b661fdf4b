import TapeDuel.Source.Block
import TapeDuel.Source.Diagnostic

/-!
# From source text to program

A source is read rune by rune. Seven runes build the tree, two close a bracket, and
everything else is comment. The first bracket that closes wrongly ends the reading
with one diagnostic; brackets still open at the end give one diagnostic each,
innermost first. A count is read right behind its bracket and stays in the text as
comment.
-/

namespace TapeDuel

/-- A bracket that is open, with what was read before it. -/
structure OpenBracket where
  bracket : Bracket
  position : Position
  before : List Item
deriving DecidableEq, Repr

/-- What has been read so far. -/
structure Reading where
  /-- The items of the innermost open block, latest first. -/
  items : List Item
  /-- The open brackets, innermost first. -/
  opened : List OpenBracket
  position : Position
deriving DecidableEq, Repr

namespace Reading

/-- Nothing has been read. -/
def start : Reading :=
  ⟨[], [], .start⟩

/-- The largest number of iterations. -/
def maxCount : Nat :=
  9223372036854775807

/-- The count that stands at the start of `rest`, which is what follows a closing
round bracket. -/
def count? (rest : List Text) : Except Complaint Nat :=
  match rest with
  | [] => .error .missingDelimiter
  | delimiter :: rest =>
    if delimiter ≠ [Text.byte '*'] then .error .missingDelimiter
    else
      let digits := (rest.takeWhile fun rune => rune.all Decimal.isDigit).flatten
      if digits = [] then .error .badCount
      else
        let count := Decimal.read digits
        if maxCount < count then .error .badCount else .ok count

/-- Adds an action. -/
def act (r : Reading) (action : Action) : Reading :=
  { r with items := .act action :: r.items }

/-- Opens a bracket. -/
def openBracket (r : Reading) (bracket : Bracket) : Reading :=
  { r with items := [], opened := ⟨bracket, r.position, r.items⟩ :: r.opened }

/-- Closes the innermost bracket around the loop `item` makes of its body. -/
def closeBracket (r : Reading) (bracket : Bracket)
    (item : Block → Except Complaint Item) : Except Complaint Reading :=
  match r.opened with
  | [] => .error .unopened
  | top :: opened =>
    if top.bracket ≠ bracket then .error (.mismatched top.position)
    else
      match item (Block.ofItems r.items) with
      | .error complaint => .error complaint
      | .ok loop => .ok { r with items := loop :: top.before, opened }

/-- What a rune means. -/
inductive Meaning where
  | act (action : Action)
  | opens (bracket : Bracket)
  | closes (bracket : Bracket)
  | comment
deriving DecidableEq, Repr

/-- The meaning of a rune. -/
def meaning (rune : Text) : Meaning :=
  if rune = [Text.byte '<'] then .act .back
  else if rune = [Text.byte '>'] then .act .forward
  else if rune = [Text.byte '+'] then .act .increment
  else if rune = [Text.byte '-'] then .act .decrement
  else if rune = [Text.byte '.'] then .act .rest
  else if rune = [Text.byte '['] then .opens .square
  else if rune = [Text.byte '('] then .opens .round
  else if rune = [Text.byte ']'] then .closes .square
  else if rune = [Text.byte ')'] then .closes .round
  else .comment

/-- Reads one rune; `rest` is what follows it. A complaint is about the bracket just
read. -/
def read (r : Reading) (rune : Text) (rest : List Text) :
    Except (Complaint × Bracket) Reading :=
  let moved (r' : Reading) : Reading := { r' with position := r.position.after rune }
  match meaning rune with
  | .act action => .ok (moved (r.act action))
  | .opens bracket => .ok (moved (r.openBracket bracket))
  | .closes .square =>
    match r.closeBracket .square fun body => .ok (.loop body) with
    | .ok r' => .ok (moved r')
    | .error complaint => .error (complaint, .square)
  | .closes .round =>
    match r.closeBracket .round fun body => (count? rest).map (.times body) with
    | .ok r' => .ok (moved r')
    | .error complaint => .error (complaint, .round)
  | .comment => .ok (moved r)

end Reading

namespace Source

/-- A diagnostic about this source. -/
def diagnostic (s : Source) (complaint : Complaint) (bracket : Bracket)
    (position : Position) : Diagnostic :=
  ⟨complaint, some bracket, position, some s⟩

/-- Reads the runes that are left. -/
def parseFrom (s : Source) : List Text → Reading → Except (List Diagnostic) Block
  | [], r =>
    match r.opened with
    | [] => .ok (Block.ofItems r.items)
    | opened => .error (opened.map fun o => s.diagnostic .unclosed o.bracket o.position)
  | rune :: rest, r =>
    match r.read rune rest with
    | .ok r' => s.parseFrom rest r'
    | .error (complaint, bracket) => .error [s.diagnostic complaint bracket r.position]

/-- The tree that a source denotes, or what is wrong with it. -/
def parse (s : Source) : Except (List Diagnostic) Block :=
  s.parseFrom s.text.runes .start

/-- The program of a source, or what is wrong with it. -/
def compile (s : Source) : Except (List Diagnostic) Program :=
  s.parse.map Block.program

end Source

/-- The program of a nameless source. -/
def compile (text : Text) : Except (List Diagnostic) Program :=
  Source.compile ⟨"", text⟩

/-- A source without its comments. -/
def minify (text : Text) : Except (List Diagnostic) Text :=
  (compile text).map Program.render

end TapeDuel
