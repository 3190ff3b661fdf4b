import TapeDuel.Config.Syntax

/-!
# Configuration values

A configuration value is concrete, like a number or a list, or it only says what is
admitted: a kind of value with bounds, or one of several values. Two values said of
the same field have to agree, and `meet?` is what both say together. A struct that is
closed admits no fields but its own.
-/

namespace TapeDuel.Config

/-- The kinds of values that can be asked for. -/
inductive Kind where
  | anything
  /-- Anything but null. -/
  | notNull
  | bool
  | string
  | bytes
  | int
  | float
  | number
deriving DecidableEq, Repr

namespace Kind

/-- What is of both kinds. -/
def meet? (k l : Kind) : Option Kind :=
  if k = l then some k
  else
    match k, l with
    | anything, k | k, anything | notNull, k | k, notNull => some k
    | number, int | int, number => some int
    | number, float | float, number => some float
    | _, _ => none

/-- Whether a scalar is of a kind. -/
def admits : Kind → Scalar → Bool
  | anything, _ => true
  | notNull, s => s ≠ .null
  | bool, .bool _ => true
  | string, .string _ => true
  | bytes, .bytes _ => true
  | int, .int _ | number, .int _ => true
  | float, .float _ | number, .float _ => true
  | _, _ => false

end Kind

/-- A bound on scalars. -/
structure Bound where
  relation : Relation
  limit : Scalar
deriving DecidableEq, Repr

namespace Bound

/-- Whether a scalar keeps within a bound. -/
def admits (b : Bound) (s : Scalar) : Bool :=
  match s.compare? b.limit with
  | some order => b.relation.holds order
  | none => b.relation = .unequal

/-- The kind of values that a bound speaks about. -/
def kind? (b : Bound) : Option Kind :=
  match b.limit with
  | .null => if b.relation = .unequal then some .notNull else none
  | .bool _ => if b.relation = .unequal then some .bool else none
  | .int _ | .float _ => some .number
  | .string _ => some .string
  | .bytes _ => some .bytes

/-- Whether one bound is a lower and the other an upper one, and nothing lies between
them. -/
def excludes (a b : Bound) : Bool :=
  let isLower := a.relation = .greater || a.relation = .atLeast
  let isUpper := b.relation = .less || b.relation = .atMost
  isLower && isUpper &&
    match a.limit.compare? b.limit with
    | some .lt => false
    | some .eq => !(a.relation = .atLeast && b.relation = .atMost)
    | some .gt => true
    | none => false

/-- Whether bounds leave nothing. -/
def conflict (bounds : List Bound) : Bool :=
  bounds.any fun a => bounds.any fun b => a.excludes b

end Bound

/-- What fields a struct admits beside its own. -/
inductive Extent where
  /-- All that others say. -/
  | plain
  /-- All, and this is said in so many words. -/
  | open
  | closed
deriving DecidableEq, Repr

/-- A configuration value. -/
inductive Value where
  /-- What depends on something that is not said. -/
  | pending
  | scalar (value : Scalar)
  /-- Any scalar of a kind within bounds; without bounds also anything else of the
  kind. -/
  | any (kind : Kind) (bounds : List Bound)
  /-- A list; `rest` is what further items have to agree with, if there may be any. -/
  | list (items : List Value) (rest : Option Value)
  /-- Fields by their labels, and what fields are whose labels are as a value says. A
  field without a value has nothing that it can be. -/
  | struct (fields : List (Label × Presence × Option Value))
      (patterns : List (Value × Value)) (extent : Extent)
  /-- One of several values, of which some are marked as meant when nothing else is
  said. -/
  | choice (options : List (Value × Bool))
deriving BEq

/-- The fields of a struct. -/
abbrev Fields := List (Label × Presence × Option Value)

namespace Value

/-- Anything at all. -/
def anything : Value :=
  any .anything []

/-- A struct that says nothing. -/
def emptyStruct : Value :=
  struct [] [] .plain

/-- A kind of values with bounds, if there is any. -/
def bounded? (kind : Kind) (bounds : List Bound) : Option Value :=
  if Bound.conflict bounds then none else some (any kind bounds)

/-! ## Choices -/

/-- The values to choose from. -/
def options : Value → List (Value × Bool)
  | choice options => options
  | v => [(v, false)]

/-- Adds a value to those to choose from, unless it is among them. -/
def addOption (options : List (Value × Bool)) (v : Value) (marked : Bool) :
    List (Value × Bool) :=
  if options.any fun o => o.1 == v then
    options.map fun o => if o.1 == v then (v, o.2 || marked) else o
  else options ++ [(v, marked)]

/-- The choice between values; none if there is nothing to choose. -/
def ofOptions? (options : List (Value × Bool)) : Option Value :=
  match options.foldl (fun os o => addOption os o.1 o.2) [] with
  | [] => none
  | [(v, _)] => some v
  | options => some (choice options)

/-- Whether one of some values is marked. -/
def hasMark (options : List (Value × Bool)) : Bool :=
  options.any Prod.snd

/-- Joins each of some values with each of others. A joined value is marked if both
are, where a side without marks counts as marked throughout. -/
def meetOptions (meet : Value → Value → Option Value) (xs ys : List (Value × Bool)) :
    Option Value :=
  let anyMark := hasMark xs || hasMark ys
  ofOptions? (xs.flatMap fun (x, dx) => ys.filterMap fun (y, dy) =>
    (meet x y).map fun v => (v, anyMark && (dx || !hasMark xs) && (dy || !hasMark ys)))

/-- What a value means when nothing else is said. -/
def settled : Value → Value
  | choice options =>
    match options.filter Prod.snd with
    | [(v, _)] => v
    | _ => choice options
  | v => v

/-! ## Joining -/

/-- A kind with bounds, joined with a value to choose from. -/
def meetAny? (kind : Kind) (bounds : List Bound) : Value → Option Value
  | any k bs => (kind.meet? k).bind fun kind => bounded? kind (bounds ++ bs)
  | scalar s =>
      if kind.admits s && bounds.all fun b => b.admits s then some (scalar s) else none
  | v =>
    if kind = .anything || kind = .notNull && bounds.all fun b => b.limit = .null then
      some v
    else none

/-- A scalar joined with a value to choose from. -/
def meetScalar? (s : Scalar) : Value → Option Value
  | any kind bounds => meetAny? kind bounds (scalar s)
  | scalar t => if s = t then some (scalar s) else none
  | pending => some pending
  | _ => none

/-- Whether a label is as a value says. -/
def admitsLabel (label : Label) : Value → Bool
  | any kind bounds =>
    let s := Scalar.string label.text
    label.sort = .regular && kind.admits s && bounds.all fun b => b.admits s
  | scalar s => label.sort = .regular && s = .string label.text
  | choice options => options.any fun o =>
      match o.1 with
      | scalar s => label.sort = .regular && s = .string label.text
      | _ => false
  | _ => false

/-- The field of a label. -/
def field? (label : Label) : Fields → Option (Presence × Option Value)
  | [] => none
  | (l, field) :: rest => if l = label then some field else field? label rest

/-- Whether a struct admits a field that others have. -/
def admitsField (fields : Fields) (patterns : List (Value × Value)) (extent : Extent)
    (label : Label) : Bool :=
  extent ≠ .closed || label.sort = .hidden || (field? label fields).isSome
    || patterns.any fun p => admitsLabel label p.1

/-- What a field says by itself that is said twice. -/
def strongest : Presence → Presence → Presence
  | .present, _ | _, .present => .present
  | .required, _ | _, .required => .required
  | .optional, .optional => .optional

/-- What two structs admit together. -/
def meetExtent : Extent → Extent → Extent
  | .closed, _ | _, .closed => .closed
  | .open, _ | _, .open => .open
  | .plain, .plain => .plain

/-- Whether every field that is there has a value. -/
def allValued (fields : Fields) : Bool :=
  fields.all fun (_, presence, v) => presence ≠ .present || v.isSome

mutual

/-- What two values say together; none if they disagree. -/
def meet? : Value → Value → Option Value
  | pending, _ => some pending
  | choice xs, w => meetOptionsOf? xs w (hasMark xs) []
  | any kind bounds, w => meetOptions (fun _ y => meetAny? kind bounds y)
      [(anything, false)] w.options
  | scalar s, w => meetOptions (fun _ y => meetScalar? s y) [(anything, false)] w.options
  | list xs restX, w =>
    meetOptions (fun _ y =>
      match y with
      | pending => some pending
      | any kind bounds => meetAny? kind bounds (list xs restX)
      | list ys restY =>
        match meetItems? xs ys restY with
        | none => none
        | some (common, more) =>
          match restX with
          | none => if more.isEmpty then some (list common none) else none
          | some r =>
            match more.mapM fun y => meet? r y with
            | none => none
            | some extra =>
              match restY with
              | none => some (list (common ++ extra) none)
              | some s => some (list (common ++ extra) (meet? r s))
      | _ => none) [(anything, false)] w.options
  | struct fs ps extentF, w =>
    meetOptions (fun _ y =>
      match y with
      | pending => some pending
      | any kind bounds => meetAny? kind bounds (struct fs ps extentF)
      | struct gs qs extentG =>
        match meetFields? fs gs qs extentG with
        | none => none
        | some shared =>
          let others := gs.filter fun (label, _) => (field? label fs).isNone
          if others.any fun (label, presence, _) =>
              presence ≠ .optional && !admitsField fs ps extentF label then none
          else
            let others := others.filter fun (label, _) => admitsField fs ps extentF label
            let others := others.map fun (label, presence, v) =>
              (label, presence, applyPatterns? ps label v)
            let fields := shared ++ others
            if allValued fields then
              some (struct fields (ps ++ qs) (meetExtent extentF extentG))
            else none
      | _ => none) [(anything, false)] w.options

/-- Joins each of some values with a value. -/
def meetOptionsOf? (xs : List (Value × Bool)) (w : Value) (marked : Bool)
    (found : List (Value × Bool)) : Option Value :=
  match xs with
  | [] => ofOptions? found
  | (x, dx) :: rest =>
    let ys := w.options
    let joined := ys.filterMap fun (y, dy) =>
      (meet? x y).map fun v =>
        (v, (marked || hasMark ys) && (dx || !marked) && (dy || !hasMark ys))
    meetOptionsOf? rest w marked (found ++ joined)

/-- A value joined with all that patterns say of its label. -/
def applyPatterns? : List (Value × Value) → Label → Option Value → Option Value
  | [], _, v => v
  | (p, q) :: rest, label, v =>
    match v with
    | none => none
    | some v =>
      if admitsLabel label p then applyPatterns? rest label (meet? q v)
      else applyPatterns? rest label (some v)

/-- Joins the items of two lists, as long as the first one lasts; what the second has
beyond that is left over. -/
def meetItems? :
    List Value → List Value → Option Value → Option (List Value × List Value)
  | [], ys, _ => some ([], ys)
  | x :: xs, [], rest =>
    match rest with
    | none => none
    | some r =>
      match meet? x r, meetItems? xs [] rest with
      | some v, some (vs, more) => some (v :: vs, more)
      | _, _ => none
  | x :: xs, y :: ys, rest =>
    match meet? x y, meetItems? xs ys rest with
    | some v, some (vs, more) => some (v :: vs, more)
    | _, _ => none

/-- The fields of one struct, each joined with what another struct with the fields
`gs` says of it. -/
def meetFields? : Fields → Fields → List (Value × Value) → Extent → Option Fields
  | [], _, _, _ => some []
  | (label, presence, v) :: fs, gs, qs, extent =>
    match meetFields? fs gs qs extent with
    | none => none
    | some rest =>
      match field? label gs with
      | some (presence', v') =>
        let both :=
          match v, v' with
          | some v, some v' => meet? v v'
          | _, _ => none
        some ((label, strongest presence presence', both) :: rest)
      | none =>
        if admitsField gs qs extent label then
          let both :=
            match v with
            | none => none
            | some v =>
              (qs.filter fun q => admitsLabel label q.1).foldl
                (fun found q => found.bind fun w =>
                  if q.2 == anything then some w else meet? v q.2)
                (some v)
          some ((label, presence, both) :: rest)
        else if presence = .optional then some rest
        else none

end

end Value

end TapeDuel.Config
