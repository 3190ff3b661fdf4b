import TapeDuel.Config.Names
import TapeDuel.Config.Reader
import TapeDuel.Config.Value
import TapeDuel.Text.Decimal

/-!
# The values of configuration files

An expression whose names are resolved has a value, unless it contradicts itself.
Operators need concrete scalars; what they make of anything else is left pending. A
struct is what its declarations say together, and one that embeds a scalar or a list
is that, as long as it has no fields of its own that can be looked up.
-/

namespace TapeDuel.Config

/-! ## Known names -/

/-- The numbers that are written in so many bits. -/
def Value.ofRange (low high : Int) : Value :=
  .any .int [⟨.atLeast, .int low⟩, ⟨.atMost, .int high⟩]

/-- What a name means in every file. -/
def knownValue? (name : Text) : Option Value :=
  let kinds : List (String × Kind) :=
    [("_", .anything), ("bool", .bool), ("string", .string), ("bytes", .bytes),
      ("int", .int), ("float", .float), ("number", .number), ("float32", .number),
      ("float64", .number)]
  let widths : List (String × Nat) :=
    [("8", 8), ("16", 16), ("32", 32), ("64", 64), ("128", 128)]
  match kinds.find? fun k => Text.ofString k.1 = name with
  | some (_, kind) => some (.any kind [])
  | none =>
    match widths.find? fun w => Text.ofString s!"int{w.1}" = name,
        widths.find? fun w => Text.ofString s!"uint{w.1}" = name with
    | some (_, bits), _ =>
      let half : Int := (Nat.pow 2 (bits - 1) : Nat)
      some (.ofRange (-half) (half - 1))
    | none, some (_, bits) => some (.ofRange 0 ((Nat.pow 2 bits : Nat) - 1))
    | none, none =>
      if name = Text.ofString "uint" then some (.any .int [⟨.atLeast, .int 0⟩])
      else if name = Text.ofString "rune" then some (.ofRange 0 0x10FFFF)
      else none

/-! ## Operators -/

/-- What an operation makes of a value: of a scalar if the value is one when nothing
else is said. -/
def Value.operate (v : Value) (operation : Scalar → Option Value) : Option Value :=
  match v.settled with
  | .scalar s => operation s
  | .list _ _ | .struct _ _ _ => none
  | _ => some .pending

/-- What an operation makes of two values. -/
def Value.operate₂ (v w : Value) (operation : Scalar → Scalar → Option Value) :
    Option Value :=
  v.operate fun s => w.operate fun t => operation s t

/-- A scalar with a sign before it. -/
def Sign.result? : Sign → Scalar → Option Scalar
  | plus, .int i => some (.int i)
  | plus, .float d => some (.float d)
  | minus, .int i => some (.int (-i))
  | minus, .float d => some (.float d.neg)
  | not, .bool b => some (.bool !b)
  | _, _ => none

/-- The number of digits of a quotient. -/
def quotientDigits : Nat :=
  34

/-- The quotient of two numbers; none if it is divided by zero. -/
def Fraction.div? (d e : Fraction) : Option Fraction :=
  if e.digits = 0 then none
  else
    let places := quotientDigits + e.digits.natAbs.log2
    let digits := (d.digits * (Nat.pow 10 places : Nat)).tdiv e.digits
    some (Fraction.normal ⟨digits, d.exponent - e.exponent - places⟩)

/-- Texts and bytes can be strung together and repeated, numbers added, subtracted,
multiplied and divided. Whole numbers stay whole, except that a quotient never is. -/
def Operator.result? (operator : Operator) (s t : Scalar) : Option Scalar :=
  match operator, s, t with
  | either, .bool a, .bool b => some (.bool (a || b))
  | both, .bool a, .bool b => some (.bool (a && b))
  | equal, s, t =>
    match s.compare? t with
    | some order => some (.bool (order = .eq))
    | none => if s = .null || t = .null then some (.bool false) else none
  | relation .unequal, s, t =>
    match s.compare? t with
    | some order => some (.bool (order ≠ .eq))
    | none => if s = .null || t = .null then some (.bool true) else none
  | relation _, .null, _ | relation _, .bool _, _ => none
  | relation r, s, t => (s.compare? t).map fun order => .bool (r.holds order)
  | add, .int i, .int j => some (.int (i + j))
  | sub, .int i, .int j => some (.int (i - j))
  | mul, .int i, .int j => some (.int (i * j))
  | add, .string a, .string b => some (.string (a ++ b))
  | add, .bytes a, .bytes b => some (.bytes (a ++ b))
  | mul, .string a, .int n | mul, .int n, .string a =>
    if n < 0 then none else some (.string (List.replicate n.toNat a).flatten)
  | add, s, t => numbers Fraction.add s t
  | sub, s, t => numbers (fun d e => d.add e.neg) s t
  | mul, s, t => numbers Fraction.mul s t
  | div, s, t =>
    match s.number?, t.number? with
    | some d, some e => (d.div? e).map .float
    | _, _ => none
  | _, _, _ => none
where
  /-- What an operation makes of two numbers. -/
  numbers (operation : Fraction → Fraction → Fraction) (s t : Scalar) : Option Scalar :=
    match s.number?, t.number? with
    | some d, some e => some (.float (operation d e))
    | _, _ => none

/-- A scalar as it is written into a text. -/
def Scalar.written? : Scalar → Option Text
  | int i => some (Decimal.writeInt i)
  | string t | bytes t => some t
  | bool b => some (if b then "true" else "false")
  | _ => none

/-- What may be bounded by a scalar. -/
def Relation.bound? (r : Relation) (s : Scalar) : Option Value :=
  let b : Bound := ⟨r, s⟩
  b.kind?.map fun kind => .any kind [b]

/-! ## Structs -/

namespace Value

/-- A struct to which no fields may be added, unless it says otherwise. -/
def close : Value → Value
  | struct fields patterns .plain => struct fields patterns .closed
  | v => v

/-- Whether a struct has a field that can be looked up. -/
def hasRegular (fields : Fields) : Bool :=
  fields.any fun (label, presence, _) => label.sort = .regular && presence ≠ .optional

/-- What a struct says together with a value that is embedded in it. The struct may
have fields that an embedded struct does not have. -/
def embed? (own : Value) (embedded : Value) : Option Value :=
  match own, embedded with
  | struct fields patterns extent, struct fields' patterns' extent' =>
    (meet? (struct fields patterns .plain)
        (struct fields' patterns' .plain)).map fun v =>
      match v with
      | struct fields patterns _ => struct fields patterns (meetExtent extent extent')
      | v => v
  | own, pending => some own
  | struct fields patterns extent, v =>
    if v == anything then some own
    else if hasRegular fields then meet? (struct fields patterns extent) v
    else some v
  | own, v => meet? own v

/-- The field of a label in a value; pending as long as it could still come. -/
def select? (v : Value) (label : Label) : Option Value :=
  match v.settled with
  | struct fields _ _ =>
    match field? label fields with
    | some (.present, w) => w
    | _ => some pending
  | pending => some pending
  | any .anything _ => some pending
  | _ => none

/-- The item at a place, or the field of a label, that a key asks for. -/
def item? (v : Value) (key : Scalar) : Option Value :=
  match key, v.settled with
  | .int i, list items rest =>
    if i < 0 then none
    else
      match items[i.toNat]?, rest with
      | some w, _ => some w
      | none, some _ => some pending
      | none, none => none
  | .string label, v => v.select? (.ofString label)
  | _, pending => some pending
  | _, _ => none

/-- How many items, fields or bytes a value has. -/
def length? (v : Value) : Option Value :=
  match v.settled with
  | scalar (.string t) | scalar (.bytes t) => some (scalar (.int t.length))
  | list items _ => some (scalar (.int items.length))
  | struct fields _ _ =>
    let shown := fields.filter fun (label, presence, _) =>
      label.sort = .regular && presence = .present
    some (scalar (.int shown.length))
  | scalar _ => none
  | _ => some pending

/-- What a known function makes of values. -/
def call? (function : Text) (args : List Value) : Option Value :=
  match args with
  | [v] =>
    if function = Text.ofString "close" then
      match v with
      | struct _ _ _ => some v.close
      | pending => some pending
      | _ => none
    else if function = Text.ofString "len" then v.length?
    else
      match v.settled with
      | list items _ =>
        if function = Text.ofString "and" then
          items.foldl (fun all w => all.bind fun v => meet? v w) (some anything)
        else if function = Text.ofString "or" then ofOptions? (items.flatMap options)
        else none
      | pending => some pending
      | _ => none
  | _ => none

end Value

/-! ## Expressions -/

/-- A struct while its declarations are read: its fields, and the values embedded in
it. -/
structure Body where
  own : Value
  embedded : List Value

namespace Body

/-- A struct without declarations. -/
def empty : Body :=
  ⟨.emptyStruct, []⟩

/-- A struct with another one joined to it. -/
def join? (body : Body) (v : Value) : Option Body :=
  (body.own.meet? v).map fun own => { body with own := own }

/-- What the whole struct says. -/
def value? (body : Body) : Option Value :=
  body.embedded.foldl (fun all v => all.bind fun own => own.embed? v) (some body.own)

end Body

mutual

/-- What an expression says; none if it contradicts itself. -/
def Expr.value? : Expr → Option Value
  | .scalar s => some (.scalar s)
  | .bottom => none
  | .name name => knownValue? name
  | .template first parts =>
    (partTexts? parts).map fun texts =>
      match texts with
      | some rest => .scalar (.string (first ++ rest))
      | none => .pending
  | .list items none => (itemValues? items).map fun vs => .list vs none
  | .list items (some rest) =>
    match itemValues? items, rest.value? with
    | some vs, some r => some (.list vs (some r))
    | _, _ => none
  | .struct ds => (bodyOf? .empty ds).bind Body.value?
  | .sign .default _ => none
  | .sign (.bound r) of =>
    match of.value? with
    | some v => v.operate r.bound?
    | none => none
  | .sign s of =>
    match of.value? with
    | some v => v.operate fun t => (s.result? t).map .scalar
    | none => none
  | .binary .or left right => Value.ofOptions? (left.choices ++ right.choices)
  | .binary .and left right =>
    match left.value?, right.value? with
    | some v, some w => v.meet? w
    | _, _ => none
  | .binary operator left right =>
    match left.value?, right.value? with
    | some v, some w => v.operate₂ w fun s t => (operator.result? s t).map .scalar
    | _, _ => none
  | .select of label =>
    match of.value? with
    | some v => v.select? label
    | none => none
  | .index of key =>
    match of.value?, key.value? with
    | some v, some k => k.operate fun s => v.item? s
    | _, _ => none
  | .call (.name function) args =>
    match itemValues? args with
    | some vs => Value.call? function vs
    | none => none
  | .call _ _ => none
  | .closed of => of.value?.map Value.close

/-- The values between which an expression leaves the choice. -/
def Expr.choices : Expr → List (Value × Bool)
  | .binary .or left right => left.choices ++ right.choices
  | .sign .default of =>
    match of.value? with
    | some v =>
      if Value.hasMark v.options then v.options else v.options.map fun o => (o.1, true)
    | none => []
  | e =>
    match e.value? with
    | some v => v.options
    | none => []

/-- The texts of the parts of a template, if all of them are known. -/
def partTexts? : List (Expr × Text) → Option (Option Text)
  | [] => some (some [])
  | (e, text) :: rest =>
    match e.value?, partTexts? rest with
    | some v, some more =>
      match v.settled with
      | .scalar s =>
          some (more.bind fun more => s.written?.map fun t => t ++ text ++ more)
      | .list _ _ | .struct _ _ _ => none
      | _ => some none
    | _, _ => none

/-- What several expressions say, each by itself. -/
def itemValues? : List Expr → Option (List Value)
  | [] => some []
  | e :: rest =>
    match e.value?, itemValues? rest with
    | some v, some vs => some (v :: vs)
    | _, _ => none

/-- A struct with all that declarations add to it. -/
def bodyOf? (body : Body) : List Declaration → Option Body
  | [] => some body
  | d :: ds =>
    match d.addTo? body with
    | some body => bodyOf? body ds
    | none => none

/-- A struct with what a declaration adds to it. -/
def Declaration.addTo? (body : Body) : Declaration → Option Body
  | .field label _ presence value =>
    match value.value? with
    | none =>
      if presence = .optional then
        body.join? (.struct [(label, presence, none)] [] .plain) else none
    | some v =>
      let v := if label.isDefinition then v.close else v
      body.join? (.struct [(label, presence, some v)] [] .plain)
  | .pattern label value =>
    match label.value?, value.value? with
    | some l, some v => body.join? (.struct [] [(l, v)] .plain)
    | _, _ => none
  | .embedded value =>
      value.value?.map fun v => { body with embedded := body.embedded ++ [v] }
  | .binding _ value => value.value?.map fun _ => body
  | .ellipsis => body.join? (.struct [] [] .open)

end

/-- How many steps following names may take. -/
def resolveFuel (ts : Nat) : Nat :=
  4 * ts + 64

/-- What the declarations of a file say; none if they contradict each other. -/
def fileValue? (ds : List Declaration) (length : Nat) : Option Value :=
  (resolve (resolveFuel length) [] [] (.struct ds)).bind Expr.value?

/-- What a text says as a file. -/
def valueOf? (t : Text) : Option Value :=
  (declarations? t).bind fun ds => fileValue? ds t.length

/-- What a schema asks for: nothing but the fields that it has. -/
def schemaOf? (t : Text) : Option Value :=
  match valueOf? (Text.ofString "close(\x7b" ++ t ++ Text.ofString "\x7d)") with
  | some (.struct fields patterns extent) => some (.struct fields patterns extent)
  | _ => none

end TapeDuel.Config
