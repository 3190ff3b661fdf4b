import Mathlib
import TapeDuel.Config.Describe
import TapeDuel.Config.Token
import TapeDuel.Proofs.QuotedTexts

/-!
# The tokens of described settings

A setting is described on a line of its own, and the tokens of that line can be told
from the line and the first byte of what is behind it: a name, a colon, the value and
the end of the line (`lineTokens`). The byte that the next line begins with is no
comma and no colon, so the line does end (`goesOn_describe`).

All the tokens come out, or none: a text that cannot be read from the way in which it
is quoted leaves no tokens at all, neither of its own line nor of the others
(`scan_describe`). The scanner counts its rounds down from the length of the text;
each lemma hands on a number of rounds that is still enough for what is left.
-/

namespace TapeDuel.Config

open Text (byte IsCharacter)

/-! ## Field names -/

/-- The names that mean something else at the start of a file or of a path. -/
def takenNames : List Text :=
  ["null", "true", "false", "package", "import"]

/-- Whether a name may stand for a setting: a letter or a sign `$`, with letters,
digits and such signs behind it, and no name that is taken. -/
def isFieldName (name : Text) : Bool :=
  (name.runes.head?.any fun rune => Token.startsName rune || rune = [byte '$']) &&
    name.runes.all Token.inName && !takenNames.contains name

theorem ne_of_mem_takenNames {name word : Text} (h : isFieldName name = true)
    (hword : word ∈ takenNames) : name ≠ word := by
  rintro rfl
  rw [isFieldName, List.contains_iff_mem.mpr hword, Bool.not_true, Bool.and_false] at h
  cases h

namespace Token

/-- Whether a name of a setting may start with the byte. -/
def opensName (b : UInt8) : Bool :=
  0x80 ≤ b || startsName [b] || b = byte '$'

/-- Whether a name is looked for in the byte. -/
def holdsName (b : UInt8) : Bool :=
  0x80 ≤ b || inName [b]

theorem isPrefixOf_of_ne {a b : UInt8} {s t : Text} (h : b ≠ a) :
    (a :: s).isPrefixOf (b :: t) = false := by
  rw [List.isPrefixOf, beq_false_of_ne (Ne.symm h), Bool.false_and]

theorem ne_of_opensName {b c : UInt8} (hb : opensName b = true)
    (hc : opensName c = false) : b ≠ c := by
  rintro rfl
  rw [hb] at hc
  cases hc

theorem isDigit_of_opensName {b : UInt8} (hb : opensName b = true) :
    Decimal.isDigit b = false := by
  rw [← Bool.not_eq_true]
  intro hdigit
  simp only [Decimal.isDigit, opensName, startsName, Bool.and_eq_true, Bool.or_eq_true,
    decide_eq_true_eq, UInt8.le_iff_toNat_le] at hdigit hb
  rcases hb with (hb | hb) | rfl
  · exact absurd (Nat.le_trans hb hdigit.2) (by decide)
  · simp only [UInt8.reduceToNat] at hb hdigit
    omega
  · exact absurd hdigit (by decide)

section Names

variable {name : Text}

theorem exists_opensName (h : isFieldName name = true) :
    ∃ b tail, name = b :: tail ∧ opensName b = true := by
  simp only [isFieldName, Bool.and_eq_true] at h
  cases hrunes : name.runes with
  | nil =>
      rw [hrunes] at h
      cases h.1.1
  | cons rune runes =>
      have hstarts : startsName rune = true ∨ rune = [byte '$'] := by
        simpa [hrunes] using h.1.1
      have hmem : rune ∈ name.runes := hrunes ▸ List.mem_cons_self
      have hname : name = rune ++ runes.flatten := by
        rw [← Text.flatten_runes name, hrunes, List.flatten_cons]
      cases Text.isRune_of_mem hmem with
      | single b =>
          refine ⟨b, runes.flatten, hname, ?_⟩
          rcases hstarts with hletter | hsign
          · simp [opensName, hletter]
          · obtain rfl : b = byte '$' := (List.cons.inj hsign).1
            rfl
      | @wide b tail hwide =>
          refine ⟨b, tail ++ runes.flatten, hname, ?_⟩
          simp [opensName, hwide b List.mem_cons_self]

theorem all_holdsName (h : isFieldName name = true) :
    ∀ b ∈ name, holdsName b = true := by
  intro b hb
  simp only [isFieldName, Bool.and_eq_true] at h
  rw [← Text.flatten_runes name] at hb
  obtain ⟨rune, hmem, hbrune⟩ := List.mem_flatten.mp hb
  have hin := List.all_eq_true.mp h.1.2 rune hmem
  cases Text.isRune_of_mem hmem with
  | single c =>
      obtain rfl := List.mem_singleton.mp hbrune
      simp [holdsName, hin]
  | wide hwide => simp [holdsName, hwide b hbrune]

theorem word_append (h : isFieldName name = true) {rest : Text}
    (hrest : rest.head?.any holdsName = false) : word (name ++ rest) = name.runes := by
  have hin : ∀ rune ∈ name.runes, inName rune = true := by
    simp only [isFieldName, Bool.and_eq_true, List.all_eq_true] at h
    exact h.1.2
  have hbehind : rest.takeWhile holdsName = [] := by
    cases rest with
    | nil => rfl
    | cons b rest =>
        have hb : holdsName b = false := hrest
        exact List.takeWhile_cons_of_neg (by simp [hb])
  have hbytes : (name ++ rest).takeWhile holdsName = name := by
    rw [List.takeWhile_append_of_pos (all_holdsName h), hbehind, List.append_nil]
  calc word (name ++ rest)
    _ = (Text.runes ((name ++ rest).takeWhile holdsName)).takeWhile inName := rfl
    _ = name.runes := by rw [hbytes, List.takeWhile_eq_self_iff.mpr hin]

theorem signs_of_opensName {b : UInt8} (hb : opensName b = true) (t : Text) :
    signs (b :: t) = [] := by
  have hunderscore : b ≠ byte '_' := ne_of_opensName hb (by decide)
  have hhash : b ≠ byte '#' := ne_of_opensName hb (by decide)
  simp [signs, hunderscore, hhash]

theorem takeName_append (h : isFieldName name = true) {rest : Text}
    (hrest : rest.head?.any holdsName = false) :
    takeName (name ++ rest) = some (name, rest) := by
  obtain ⟨b, tail, hname, hb⟩ := exists_opensName h
  have hsigns : signs (name ++ rest) = [] := by
    rw [hname]
    exact signs_of_opensName hb _
  have hstarts : (name.runes.head?.any fun rune => startsName rune ||
      rune = [byte '$']) = true := by
    simp only [isFieldName, Bool.and_eq_true] at h
    exact h.1.1
  have hreserved : reserved.isPrefixOf name = false := by
    have hunderscores : reserved = [byte '_', byte '_'] := by cbv
    rw [hunderscores, hname]
    exact isPrefixOf_of_ne (ne_of_opensName hb (by decide))
  rw [takeName]
  simp [hsigns, word_append h hrest, hstarts, Text.flatten_runes, hreserved]

end Names

/-! ## Tokens -/

theorem ofMark_minus : ofMark "-" = mark [byte '-'] := by
  cbv

theorem ofMark_colon : ofMark ":" = mark [byte ':'] := by
  cbv

theorem bottom_eq : Text.ofString "_|" = [byte '_', byte '|'] := by
  cbv

/-- No other mark begins with a colon. -/
theorem marks_colon :
    (marks.filter fun m => m.head? = some (byte ':')) = [[byte ':']] := by
  cbv

/-- No other mark begins with a minus sign. -/
theorem marks_minus :
    (marks.filter fun m => m.head? = some (byte '-')) = [[byte '-']] := by
  cbv

theorem takeToken_name {name : Text} (h : isFieldName name = true) {rest : Text}
    (hrest : rest.head?.any holdsName = false) :
    takeToken [] (name ++ rest) = some (.name name, [], rest) := by
  obtain ⟨b, tail, hname, hb⟩ := exists_opensName h
  have hnumber : startsNumber (name ++ rest) = false := by
    have hpoint : b ≠ byte '.' := ne_of_opensName hb (by decide)
    rw [hname, List.cons_append]
    cases tail ++ rest <;> simp [startsNumber, isDigit_of_opensName hb, hpoint]
  have hbottom : (Text.ofString "_|").isPrefixOf (name ++ rest) = false := by
    rw [bottom_eq, hname]
    exact isPrefixOf_of_ne (ne_of_opensName hb (by decide))
  have hquote : takeQuote (name ++ rest) = none := by
    have hhash : b ≠ Quote.hash := ne_of_opensName hb (by decide)
    have hdouble : b ≠ byte '"' := ne_of_opensName hb (by decide)
    have hsingle : b ≠ byte '\x27' := ne_of_opensName hb (by decide)
    simp [takeQuote, hname, hhash, hdouble, hsingle]
  simp only [takeToken, hnumber, hbottom, hquote, takeName_append h hrest,
    Bool.false_eq_true, if_false]

/-- A mark that is the only one with its first byte. -/
theorem takeMark_single {b : UInt8}
    (hmarks : (marks.filter fun m => m.head? = some b) = [[b]]) (t : Text) :
    takeMark (b :: t) = some ([b], t) := by
  have hne : marks.contains [] = false := by cbv
  have hfirst : ∀ m ∈ marks, m.isPrefixOf (b :: t) = true → m.head? = some b := by
    intro m hm hprefix
    cases m with
    | nil =>
        rw [List.contains_iff_mem.mpr hm] at hne
        cases hne
    | cons c m =>
        rw [List.isPrefixOf, Bool.and_eq_true, beq_iff_eq] at hprefix
        exact congrArg some hprefix.1
  have hfind : marks.find? (fun m => m.isPrefixOf (b :: t)) = some [b] := by
    calc marks.find? (fun m => m.isPrefixOf (b :: t))
      _ = (marks.filter fun m => m.head? = some b).find?
            (fun m => m.isPrefixOf (b :: t)) := by
          rw [List.find?_filter]
          refine List.find?_congr fun m hm => ?_
          cases hprefix : m.isPrefixOf (b :: t) with
          | true => simp [hfirst m hm hprefix]
          | false => simp
      _ = some [b] := by
          rw [hmarks]
          simp [List.isPrefixOf]
  rw [takeMark, hfind]
  rfl

/-- The bytes that begin something else than a mark. -/
def openers : List UInt8 :=
  [byte '.', byte '_', byte '#', byte '"', byte '\x27', byte '@']

theorem takeToken_mark {b : UInt8}
    (hmarks : (marks.filter fun m => m.head? = some b) = [[b]])
    (hdigit : Decimal.isDigit b = false) (hname : holdsName b = false)
    (hopeners : b ∉ openers) (t : Text) :
    takeToken [] (b :: t) = some (.mark [b], [], t) := by
  simp only [openers, List.mem_cons, List.not_mem_nil, or_false, not_or] at hopeners
  obtain ⟨hpoint, hunderscore, hhash, hdouble, hsingle, hat⟩ := hopeners
  have hnumber : startsNumber (b :: t) = false := by
    cases t <;> simp [startsNumber, hdigit, hpoint]
  have hbottom : (Text.ofString "_|").isPrefixOf (b :: t) = false := by
    rw [bottom_eq]
    exact isPrefixOf_of_ne hunderscore
  have hquote : takeQuote (b :: t) = none := by
    simp [takeQuote, Quote.hash, hhash, hdouble, hsingle]
  have hword : word (b :: t) = [] := by
    calc word (b :: t)
      _ = (Text.runes ((b :: t).takeWhile holdsName)).takeWhile inName := rfl
      _ = [] := by
          rw [List.takeWhile_cons_of_neg (by simp [hname])]
          rfl
  have htake : takeName (b :: t) = none := by
    have hsigns : signs (b :: t) = [] := by
      simp [signs, hunderscore, hhash]
    simp [takeName, hsigns, hword]
  simp only [takeToken, hnumber, hbottom, hquote, htake, List.head?_cons,
    Option.some.injEq, hat, takeMark_single hmarks, Bool.false_eq_true, if_false]

theorem takeToken_write (n : Nat) (rest : Text) :
    takeToken [] (Decimal.write n ++ byte '\n' :: rest) =
      some (.scalar (.int n), [], byte '\n' :: rest) := by
  have hnumber : startsNumber (Decimal.write n ++ byte '\n' :: rest) = true := by
    cases hwrite : Decimal.write n with
    | nil => exact absurd hwrite (Decimal.write_ne_nil n)
    | cons d digits =>
        have hd : Decimal.isDigit d = true :=
          Decimal.isDigit_of_mem_write (hwrite ▸ List.mem_cons_self)
        cases digits <;> simp [startsNumber, hd]
  simp only [takeToken, hnumber, if_true, Numeral.take_write, Option.map_some]

theorem quote_append (t rest : Text) :
    t.quote ++ byte '\n' :: rest = byte '"' ::
      ((t.runes.map Text.quoteRune).flatten ++ byte '"' :: byte '\n' :: rest) := by
  simp [Text.quote]

/-- Behind its quote, a quoted text at the end of a line. -/
theorem takeString_quoteRunes (t rest : Text) :
    takeString .double
        ((t.runes.map Text.quoteRune).flatten ++ byte '"' :: byte '\n' :: rest) =
      if t.runes.all isSpellable then some (.string t true, false, byte '\n' :: rest)
      else none := by
  have hblock : ([Quote.double.char, Quote.double.char] : Text).isPrefixOf
      ((t.runes.map Text.quoteRune).flatten ++ byte '"' :: byte '\n' :: rest) =
      false := by
    cases hrunes : t.runes with
    | nil => rfl
    | cons rune runes =>
        have hhead :=
          (Quote.quotedRune (hrunes ▸ List.mem_cons_self : rune ∈ t.runes)).head_ne
            ((runes.map Text.quoteRune).flatten ++ byte '"' :: byte '\n' :: rest)
        rw [List.map_cons, List.flatten_cons, List.append_assoc]
        revert hhead
        cases Text.quoteRune rune ++
            ((runes.map Text.quoteRune).flatten ++ byte '"' :: byte '\n' :: rest) with
        | nil => exact fun _ => rfl
        | cons b _ =>
            exact fun hhead => isPrefixOf_of_ne fun hb => hhead (congrArg some hb)
  have hread := Quote.takeLine_quoteRunes (fun rune => Quote.quotedRune (t := t))
    (byte '\n' :: rest) (Nat.le_succ _)
  rw [takeString, if_neg (by simp [hblock]), hread, Text.flatten_runes]
  cases t.runes.all isSpellable with
  | false => rfl
  | true => rfl

theorem takeToken_quote (t rest : Text) :
    takeToken [] (t.quote ++ byte '\n' :: rest) =
      if t.runes.all isSpellable then some (.string t true, [], byte '\n' :: rest)
      else none := by
  have hnumber : startsNumber (t.quote ++ byte '\n' :: rest) = false := by
    rw [quote_append]
    cases (t.runes.map Text.quoteRune).flatten ++ byte '"' :: byte '\n' :: rest <;> rfl
  have hbottom : (Text.ofString "_|").isPrefixOf (t.quote ++ byte '\n' :: rest) =
      false := by
    rw [bottom_eq, quote_append]
    exact isPrefixOf_of_ne (by decide)
  have htake : takeQuote (t.quote ++ byte '\n' :: rest) = some (.double,
      (t.runes.map Text.quoteRune).flatten ++ byte '"' :: byte '\n' :: rest) := by
    rw [quote_append]
    rfl
  simp only [takeToken, hnumber, hbottom, htake, takeString_quoteRunes,
    Bool.false_eq_true, if_false]
  cases t.runes.all isSpellable with
  | false => rfl
  | true => rfl

/-! ## Lines -/

section Scan

variable {n : Nat} {open_ : Bool} {b : UInt8} {t rest : Text}

/-- A byte that is no blank begins a token, unless it begins a comment. -/
theorem scan_token (hline : b ≠ byte '\n') (hblank : isBlankByte b = false)
    (hcomment : b ≠ byte '/') :
    scan (n + 1) [] open_ (b :: t) = (takeToken [] (b :: t)).bind
      fun (token, frames, after) =>
      (scan n frames token.mayEnd after).map (token :: ·) := by
  have hslashes : (Text.ofString "//").isPrefixOf (b :: t) = false := by
    have hmark : Text.ofString "//" = [byte '/', byte '/'] := by cbv
    rw [hmark]
    exact isPrefixOf_of_ne hcomment
  simp only [scan, hline, hblank, hslashes, Bool.false_eq_true, if_false]
  cases takeToken [] (b :: t) <;> rfl

theorem scan_name {name : Text} (h : isFieldName name = true)
    (hrest : rest.head?.any holdsName = false) :
    scan (n + 1) [] open_ (name ++ rest) = (scan n [] true rest).map
      (.name name :: ·) := by
  obtain ⟨b, tail, hname, hopens⟩ := exists_opensName h
  have hline : b ≠ byte '\n' := ne_of_opensName hopens (by decide)
  have hcomment : b ≠ byte '/' := ne_of_opensName hopens (by decide)
  have hblank : isBlankByte b = false := by
    have hspace : b ≠ byte ' ' := ne_of_opensName hopens (by decide)
    have htab : b ≠ byte '\t' := ne_of_opensName hopens (by decide)
    have hreturn : b ≠ byte '\r' := ne_of_opensName hopens (by decide)
    simp [isBlankByte, hspace, htab, hreturn]
  have htake := takeToken_name h hrest
  rw [hname, List.cons_append] at htake
  rw [hname, List.cons_append, scan_token hline hblank hcomment, htake]
  rfl

theorem scan_space :
    scan (n + 1) [] open_ (byte ' ' :: rest) = scan n [] open_ rest := by
  rfl

theorem scan_lineEnd (hrest : goesOn rest = false) :
    scan (n + 1) [] true (byte '\n' :: rest) = (scan n [] false rest).map
      (.lineEnd :: ·) := by
  rw [scan, if_pos rfl, hrest]
  rfl

end Scan

end Token

namespace Setting

/-- Whether the value can be read from the way in which it is written. -/
def isSpellable : Setting → Bool
  | int _ => true
  | text t => t.runes.all Config.isSpellable

/-- The tokens of the value as it is written. -/
def tokens : Setting → List Token
  | int i =>
      if i < 0 then [.ofMark "-", .scalar (.int i.natAbs)] else [.scalar (.int i.natAbs)]
  | text t => [.string t true]

open Token

theorem scan_numeral (k : Nat) {rest : Text} (hrest : goesOn rest = false) {n : Nat}
    {open_ : Bool} :
    scan (n + 2) [] open_ (Decimal.write k ++ byte '\n' :: rest) =
      (scan n [] false rest).map ([.scalar (.int k), .lineEnd] ++ ·) := by
  have htake := takeToken_write k rest
  cases hwrite : Decimal.write k with
  | nil => exact absurd hwrite (Decimal.write_ne_nil k)
  | cons d digits =>
      have hd : Decimal.isDigit d = true :=
        Decimal.isDigit_of_mem_write (hwrite ▸ List.mem_cons_self)
      have hblank : isBlankByte d = false := by
        have hspace : d ≠ byte ' ' := Decimal.ne_of_isDigit hd (by decide)
        have htab : d ≠ byte '\t' := Decimal.ne_of_isDigit hd (by decide)
        have hreturn : d ≠ byte '\r' := Decimal.ne_of_isDigit hd (by decide)
        simp [isBlankByte, hspace, htab, hreturn]
      have hline : d ≠ byte '\n' := Decimal.ne_of_isDigit hd (by decide)
      have hcomment : d ≠ byte '/' := Decimal.ne_of_isDigit hd (by decide)
      rw [hwrite, List.cons_append] at htake
      rw [List.cons_append, scan_token hline hblank hcomment, htake, Option.bind_some]
      change (scan (n + 1) [] true _).map _ = _
      rw [scan_lineEnd hrest, Option.map_map]
      rfl

theorem scan_quote (t : Text) {rest : Text} (hrest : goesOn rest = false) {n : Nat}
    {open_ : Bool} :
    scan (n + 2) [] open_ (t.quote ++ byte '\n' :: rest) =
      if t.runes.all Config.isSpellable then
        (scan n [] false rest).map ([.string t true, .lineEnd] ++ ·)
      else none := by
  have htake := takeToken_quote t rest
  rw [quote_append] at htake ⊢
  rw [scan_token (by decide) (by decide) (by decide), htake]
  cases t.runes.all Config.isSpellable with
  | false => rfl
  | true =>
      change (scan (n + 1) [] true _).map _ = _
      rw [scan_lineEnd hrest, Option.map_map]
      rfl

/-- A value at the end of a line gives its tokens and the end of the line, or nothing
at all if it cannot be read. -/
theorem scan_write (s : Setting) {rest : Text} (hrest : goesOn rest = false) {n : Nat}
    {open_ : Bool} (hn : (s.write ++ byte '\n' :: rest).length ≤ n) :
    ∃ m, rest.length ≤ m ∧ scan n [] open_ (s.write ++ byte '\n' :: rest) =
      if s.isSpellable then (scan m [] false rest).map (s.tokens ++ [Token.lineEnd] ++ ·)
      else none := by
  rw [List.length_append, List.length_cons] at hn
  cases s with
  | int i =>
      have hdigits : 0 < (Decimal.write i.natAbs).length :=
        List.length_pos_iff.mpr (Decimal.write_ne_nil _)
      by_cases hi : i < 0
      · simp only [write, Decimal.writeInt, tokens, hi, if_true, List.length_cons]
          at hn ⊢
        obtain ⟨m, rfl⟩ := Nat.exists_eq_add_of_le' (show 3 ≤ n by omega)
        refine ⟨m, by omega, ?_⟩
        rw [List.cons_append, scan_token (by decide) (by decide) (by decide),
          takeToken_mark marks_minus (by decide) (by decide) (by decide),
          Option.bind_some]
        dsimp only
        rw [scan_numeral _ hrest, Option.map_map, ofMark_minus]
        rfl
      · simp only [write, Decimal.writeInt, tokens, hi, if_false] at hn ⊢
        obtain ⟨m, rfl⟩ := Nat.exists_eq_add_of_le' (show 2 ≤ n by omega)
        exact ⟨m, by omega, scan_numeral _ hrest⟩
  | text t =>
      have hquotes : 2 ≤ t.quote.length := by
        simp [Text.quote]
      obtain ⟨m, rfl⟩ := Nat.exists_eq_add_of_le' (show 2 ≤ n by
        simp only [write] at hn
        omega)
      refine ⟨m, ?_, scan_quote t hrest⟩
      simp only [write] at hn
      omega

end Setting

/-! ## Files of settings -/

/-- The tokens of the line of a setting. -/
def lineTokens : Text × Setting → List Token
  | (name, value) => [.name name, .ofMark ":"] ++ value.tokens ++ [.lineEnd]

section Describe

open Token

variable {name : Text} {value : Setting} {settings : List (Text × Setting)}

theorem colon_eq : Text.ofString ": " = [byte ':', byte ' '] := by
  cbv

theorem describe_cons :
    describe ((name, value) :: settings) =
      name ++ byte ':' :: byte ' ' ::
        (value.write ++ byte '\n' :: describe settings) := by
  simp [describe, colon_eq]

/-- No line goes on with what a line begins with. -/
theorem goesOn_describe (hnames : ∀ s ∈ settings, isFieldName s.1 = true) :
    goesOn (describe settings) = false := by
  cases settings with
  | nil => rfl
  | cons s settings =>
      obtain ⟨b, tail, hname, hb⟩ := exists_opensName (hnames s List.mem_cons_self)
      have hblank : b ≠ byte ' ' ∧ b ≠ byte '\t' ∧ b ≠ byte '\r' ∧ b ≠ byte '\n' :=
        ⟨ne_of_opensName hb (by decide), ne_of_opensName hb (by decide),
          ne_of_opensName hb (by decide), ne_of_opensName hb (by decide)⟩
      have hgoes : b ≠ byte ',' ∧ b ≠ byte ':' :=
        ⟨ne_of_opensName hb (by decide), ne_of_opensName hb (by decide)⟩
      rw [describe_cons, hname, List.cons_append, goesOn]
      simp [isBlankByte, hblank, hgoes]

theorem scan_line (hname : isFieldName name = true)
    (hnames : ∀ s ∈ settings, isFieldName s.1 = true) {n : Nat}
    (hn : (describe ((name, value) :: settings)).length ≤ n) :
    ∃ m, (describe settings).length ≤ m ∧
      scan n [] false (describe ((name, value) :: settings)) =
        if value.isSpellable then
          (scan m [] false (describe settings)).map (lineTokens (name, value) ++ ·)
        else none := by
  have hlong : 0 < name.length := by
    obtain ⟨b, tail, hb, -⟩ := exists_opensName hname
    exact hb ▸ Nat.succ_pos _
  rw [describe_cons] at hn ⊢
  rw [List.length_append, List.length_cons, List.length_cons] at hn
  obtain ⟨k, rfl⟩ := Nat.exists_eq_add_of_le' (show 3 ≤ n by omega)
  obtain ⟨m, hm, hvalue⟩ := value.scan_write (goesOn_describe hnames)
    (show (value.write ++ byte '\n' :: describe settings).length ≤ k by omega)
  refine ⟨m, hm, ?_⟩
  rw [scan_name hname rfl, scan_token (by decide) (by decide) (by decide),
    takeToken_mark marks_colon (by decide) (by decide) (by decide), Option.bind_some]
  dsimp only
  rw [scan_space, hvalue]
  cases value.isSpellable with
  | false => rfl
  | true =>
      rw [if_pos rfl, if_pos rfl, Option.map_map, Option.map_map, lineTokens,
        ofMark_colon]
      refine congrArg (fun f => Option.map f _) (funext fun tokens => ?_)
      simp

/-- The tokens of described settings are those of their lines; but there are none at
all if one value cannot be read. -/
theorem scan_describe (hnames : ∀ s ∈ settings, isFieldName s.1 = true) {n : Nat}
    (hn : (describe settings).length ≤ n) :
    scan n [] false (describe settings) =
      if settings.all (·.2.isSpellable) then some (settings.flatMap lineTokens)
      else none := by
  induction settings generalizing n with
  | nil =>
      rw [describe, List.map_nil, List.flatten_nil]
      unfold scan
      rfl
  | cons s settings ih =>
      obtain ⟨name, value⟩ := s
      obtain ⟨hname, hnames⟩ := List.forall_mem_cons.mp hnames
      obtain ⟨m, hm, hline⟩ := scan_line hname hnames hn
      rw [hline, ih hnames hm, List.all_cons, List.flatMap_cons]
      cases value.isSpellable with
      | false => rfl
      | true =>
          cases settings.all (·.2.isSpellable) with
          | false => rfl
          | true => rfl

end Describe

end TapeDuel.Config
