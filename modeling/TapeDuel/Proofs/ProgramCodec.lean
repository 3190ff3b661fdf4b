import TapeDuel.Binary.Program
import TapeDuel.Proofs.Rendering

/-!
# Stored programs come back

A stored program is one item: a head with the number of instructions, and then
an item of three integers for each. Every head says its own length, so each
reader is followed by what was written after it, whatever that is. The
statements below carry that rest along, from the bytes of one number to the item
of a whole program.

Writing knows no limit, but reading does. A program of more than `maxElements`
instructions is no item at all when it is read (`readProgram_writeProgram_long`);
up to there the reader gets back the program that was written, and what becomes
of it is up to the check (`readProgram_writeProgram`). The item is taken apart
before anything is checked, so also of two programs that the check refuses no two
are written alike (`writeProgram_inj`).
-/

namespace TapeDuel.Binary

/-! ## Heads -/

theorem readNumber_succ (width acc : Nat) (t : Text) :
    readNumber (width + 1) acc t =
      (readNumber width acc t).bind fun (n, rest) => readNumber 1 n rest := by
  induction width generalizing acc t with
  | zero => cases t <;> rfl
  | succ width ih =>
      cases t with
      | nil => rfl
      | cons b rest => exact ih (256 * acc + b.toNat) rest

theorem readNumber_numberBytes (width acc n : Nat) (rest : Text) :
    readNumber width acc (numberBytes width n ++ rest) =
      some (acc * 256 ^ width + n % 256 ^ width, rest) := by
  induction width generalizing n rest with
  | zero => simp [readNumber, numberBytes, Nat.mod_one]
  | succ width ih =>
      rw [readNumber_succ, numberBytes, List.append_assoc, ih, Option.bind_some]
      have hsplit : n % 256 ^ (width + 1) = 256 * (n / 256 % 256 ^ width) + n % 256 := by
        rw [Nat.pow_succ', Nat.mod_mul, Nat.add_comm]
      have hpow : acc * 256 ^ (width + 1) = acc * 256 ^ width * 256 := by
        rw [Nat.pow_succ, Nat.mul_assoc]
      simp only [List.cons_append, List.nil_append, readNumber, UInt8.toNat_ofNat']
      rw [hsplit, hpow]
      congr 2
      omega

theorem firstByte {major info : Nat} (hmajor : major < 7) (hinfo : info < 32) :
    (UInt8.ofNat (32 * major + info)).toNat / 32 = major ∧
      (UInt8.ofNat (32 * major + info)).toNat % 32 = info := by
  rw [UInt8.toNat_ofNat']
  omega

theorem readHead_short {b : UInt8} {major value : Nat} (hmajor : b.toNat / 32 = major)
    (hinfo : b.toNat % 32 = value) (hvalue : value < 24) (rest : Text) :
    readHead (b :: rest) = some (⟨major, value, value⟩, rest) := by
  simp [readHead, hmajor, hinfo, hvalue]

/-- The four sizes of numbers behind the first byte of a head. -/
theorem readHead_wide {b : UInt8} {major info width value : Nat} (hlow : major < 7)
    (hmajor : b.toNat / 32 = major) (hinfo : b.toNat % 32 = info)
    (hwidth : (info, width) ∈ [(24, 1), (25, 2), (26, 4), (27, 8)])
    (hvalue : value < 256 ^ width) (rest : Text) :
    readHead (b :: (numberBytes width value ++ rest)) =
      some (⟨major, info, value⟩, rest) := by
  have hnumber := readNumber_numberBytes width 0 value rest
  rw [Nat.mod_eq_of_lt hvalue, Nat.zero_mul, Nat.zero_add] at hnumber
  have hne : major ≠ 7 := by omega
  simp only [List.mem_cons, Prod.mk.injEq, List.not_mem_nil, or_false] at hwidth
  rcases hwidth with ⟨rfl, rfl⟩ | ⟨rfl, rfl⟩ | ⟨rfl, rfl⟩ | ⟨rfl, rfl⟩
  all_goals simp [readHead, hmajor, hinfo, hnumber, hne]

/-- A head is read as it was written. -/
theorem readHead_writeHead {major value : Nat} (hmajor : major < 7)
    (hvalue : value < 2 ^ 64) (rest : Text) :
    ∃ info, info ≠ indefinite ∧
      readHead (writeHead major value ++ rest) = some (⟨major, info, value⟩, rest) := by
  have hwide : ∀ {info width : Nat},
      (info, width) ∈ [(24, 1), (25, 2), (26, 4), (27, 8)] → info < 32 →
      value < 256 ^ width →
      readHead (UInt8.ofNat (32 * major + info) :: (numberBytes width value ++ rest)) =
        some (⟨major, info, value⟩, rest) := by
    intro info width hwidth hinfo hvalue
    obtain ⟨hmaj, hinf⟩ := firstByte hmajor hinfo
    exact readHead_wide hmajor hmaj hinf hwidth hvalue rest
  rw [writeHead]
  split
  · next hsmall =>
      obtain ⟨hmaj, hinf⟩ := firstByte hmajor (show value < 32 by omega)
      exact ⟨value, by rw [indefinite]; omega, readHead_short hmaj hinf hsmall rest⟩
  · split
    · exact ⟨24, by decide, hwide (by decide) (by decide) (by omega)⟩
    · split
      · exact ⟨25, by decide, hwide (by decide) (by decide) (by omega)⟩
      · split
        · exact ⟨26, by decide, hwide (by decide) (by decide) (by omega)⟩
        · exact ⟨27, by decide, hwide (by decide) (by decide) (by omega)⟩

theorem writeHead_ne_nil (major value : Nat) : writeHead major value ≠ [] := by
  rw [writeHead]
  repeat' split
  all_goals exact List.cons_ne_nil _ _

/-! ## Items -/

/-- The item that an integer is written as. -/
def intItem (i : Int) : Item :=
  if 0 ≤ i then .unsigned i.toNat else .negative (-1 - i).toNat

/-- The item that an instruction is written as. -/
def instructionItem (i : Instruction) : Item :=
  .array [.unsigned i.op.code.toNat, intItem i.target, intItem i.iterations]

/-- Both operands are 64-bit integers. -/
def Fits (i : Instruction) : Prop :=
  fits64 i.target = true ∧ fits64 i.iterations = true

section Read

variable (fuel depth : Nat) (rest : Text)

theorem readItem_unsigned {value : Nat} (hvalue : value < 2 ^ 64) :
    readItem (fuel + 1) depth (writeHead 0 value ++ rest) =
      some (.unsigned value, rest) := by
  obtain ⟨info, -, hhead⟩ := readHead_writeHead (show 0 < 7 by decide) hvalue rest
  rw [readItem, hhead]
  rfl

theorem readItem_negative {value : Nat} (hvalue : value < 2 ^ 64) :
    readItem (fuel + 1) depth (writeHead 1 value ++ rest) =
      some (.negative value, rest) := by
  obtain ⟨info, -, hhead⟩ := readHead_writeHead (show 1 < 7 by decide) hvalue rest
  rw [readItem, hhead]
  rfl

theorem readItem_writeInt {i : Int} (hi : fits64 i = true) :
    readItem (fuel + 1) depth (writeInt i ++ rest) = some (intItem i, rest) := by
  rw [fits64, Bool.and_eq_true, decide_eq_true_eq, decide_eq_true_eq] at hi
  rw [writeInt, intItem]
  split
  · exact readItem_unsigned fuel depth rest (by omega)
  · exact readItem_negative fuel depth rest (by omega)

/-- The head of an array says how many items follow. -/
theorem readItem_array {size : Nat} (hsize : size ≤ maxElements)
    (hdepth : depth < maxNesting) :
    readItem (fuel + 1) depth (writeHead 4 size ++ rest) =
      (readItems fuel (depth + 1) size rest []).map
        fun (items, rest) => (.array items, rest) := by
  have hvalue : size < 2 ^ 64 := by
    rw [maxElements] at hsize
    omega
  obtain ⟨info, hinfo, hhead⟩ :=
    readHead_writeHead (show 4 < 7 by decide) hvalue rest
  rw [readItem, hhead]
  simp [hinfo, Nat.not_le.mpr hdepth, Nat.not_lt.mpr hsize]
  split <;> simp [*]

/-- An array that says it has more items than are read is no item. -/
theorem readItem_array_long {size : Nat} (hsize : maxElements < size)
    (hvalue : size < 2 ^ 64) :
    readItem (fuel + 1) depth (writeHead 4 size ++ rest) = none := by
  obtain ⟨info, hinfo, hhead⟩ :=
    readHead_writeHead (show 4 < 7 by decide) hvalue rest
  rw [readItem, hhead]
  simp [hinfo, hsize]

theorem readItem_writeInstruction {i : Instruction} (hi : Fits i)
    (hdepth : depth < maxNesting) :
    readItem (fuel + 5) depth (writeInstruction i ++ rest) =
      some (instructionItem i, rest) := by
  have hcode : i.op.code.toNat < 2 ^ 64 := by
    have := i.op.code.toNat_lt
    omega
  simp only [writeInstruction, List.append_assoc]
  rw [readItem_array _ _ _ (by decide) hdepth, readItems,
    readItem_unsigned _ _ _ hcode]
  dsimp only
  rw [readItems, readItem_writeInt _ _ _ hi.1]
  dsimp only
  rw [readItems, readItem_writeInt _ _ _ hi.2]
  dsimp only
  rw [readItems]
  rfl

end Read

/-- Instructions that follow each other are read one after the other. Each takes
a unit of fuel, and five more are enough to read it. -/
theorem readItems_flatMap {depth : Nat} (hdepth : depth < maxNesting)
    {code : List Instruction} (hcode : ∀ i ∈ code, Fits i) (rest : Text) :
    ∀ {fuel : Nat} {acc : List Item}, 5 * code.length + 1 ≤ fuel →
      readItems fuel depth code.length (code.flatMap writeInstruction ++ rest) acc =
        some (acc.reverse ++ code.map instructionItem, rest) := by
  induction code with
  | nil =>
      intro fuel acc hfuel
      obtain ⟨fuel, rfl⟩ : ∃ n, fuel = n + 1 := ⟨fuel - 1, by omega⟩
      rw [List.length_nil, readItems]
      simp
  | cons i code ih =>
      obtain ⟨hi, hcode⟩ := List.forall_mem_cons.mp hcode
      intro fuel acc hfuel
      rw [List.length_cons] at hfuel
      obtain ⟨fuel, rfl⟩ : ∃ n, fuel = n + 5 + 1 := ⟨fuel - 6, by omega⟩
      rw [List.length_cons, List.flatMap_cons, List.append_assoc, readItems,
        readItem_writeInstruction fuel depth _ hi hdepth]
      dsimp only
      rw [ih hcode (by omega)]
      simp

/-! ## Programs -/

section Program

variable {p : Program}

theorem four_mul_le_length_flatMap (code : List Instruction) :
    4 * code.length ≤ (code.flatMap writeInstruction).length := by
  have hone : ∀ t : Text, t ≠ [] → 1 ≤ t.length := fun t => List.length_pos_of_ne_nil
  have hint : ∀ i, writeInt i ≠ [] := by
    intro i
    rw [writeInt]
    split <;> exact writeHead_ne_nil _ _
  induction code with
  | nil => exact Nat.le_refl _
  | cons i code ih =>
      have h₁ := hone _ (writeHead_ne_nil 4 3)
      have h₂ := hone _ (writeHead_ne_nil 0 i.op.code.toNat)
      have h₃ := hone _ (hint i.target)
      have h₄ := hone _ (hint i.iterations)
      simp only [List.flatMap_cons, writeInstruction, List.length_append,
        List.length_cons]
      omega

/-- The item of a program, read with nothing behind it. -/
theorem read_writeProgram (hsize : p.size ≤ maxElements)
    (hfits : ∀ i ∈ p.toList, Fits i) :
    read (writeProgram p) = some (.array (p.toList.map instructionItem), []) := by
  have hlength := four_mul_le_length_flatMap p.toList
  have hhead := List.length_pos_of_ne_nil (writeHead_ne_nil 4 p.size)
  have htotal : (writeProgram p).length = (writeHead 4 p.size).length +
      (p.toList.flatMap writeInstruction).length := List.length_append
  have hcount : p.toList.length = p.size := Array.length_toList
  rw [hcount] at hlength
  have hitems : readItems (2 * List.length (writeProgram p) + 1) 1 p.toList.length
      (p.toList.flatMap writeInstruction ++ []) [] =
        some (p.toList.map instructionItem, []) :=
    readItems_flatMap (by decide) hfits [] (by omega)
  rw [List.append_nil, hcount] at hitems
  have harray := readItem_array (2 * List.length (writeProgram p) + 1) 0
    (p.toList.flatMap writeInstruction) hsize (by decide)
  rw [hitems] at harray
  exact harray

theorem toInt?_intItem (i : Int) : (intItem i).toInt? = some i := by
  rw [intItem]
  split
  · rw [Item.toInt?, Item.untagged?]
    · simp only [Option.some.injEq]
      omega
    · nofun
  · rw [Item.toInt?, Item.untagged?]
    · simp only [Option.some.injEq]
      omega
    · nofun

theorem instruction?_instructionItem {i : Instruction} (hi : Fits i) :
    instruction? (instructionItem i) = some i := by
  have hcode : code? (.unsigned i.op.code.toNat) = some i.op.code := by
    have hlt := i.op.code.toNat_lt
    have hint : (Item.unsigned i.op.code.toNat).toInt? = some (i.op.code.toNat : Int) :=
      rfl
    rw [code?, hint]
    dsimp only
    rw [if_pos (by omega), Int.toNat_natCast, UInt8.ofNat_toNat]
  have htarget : operand? (intItem i.target) = some i.target := by
    rw [operand?, toInt?_intItem]
    exact if_pos hi.1
  have hiterations : operand? (intItem i.iterations) = some i.iterations := by
    rw [operand?, toInt?_intItem]
    exact if_pos hi.2
  have helements : (instructionItem i).elements? =
      some (some [.unsigned i.op.code.toNat, intItem i.target, intItem i.iterations]) :=
    rfl
  rw [instruction?, helements]
  dsimp only
  rw [hcode, htarget, hiterations]
  dsimp only
  rw [Op.ofCode_code]

theorem mapM_instruction? {code : List Instruction} (hcode : ∀ i ∈ code, Fits i) :
    (code.map instructionItem).mapM instruction? = some code := by
  induction code with
  | nil => rfl
  | cons i code ih =>
      obtain ⟨hi, hcode⟩ := List.forall_mem_cons.mp hcode
      rw [List.map_cons, List.mapM_cons, instruction?_instructionItem hi, ih hcode]
      rfl

/-- A program that is not too long is read as it was written, and then it is
checked. -/
theorem readProgram_writeProgram (hsize : p.size ≤ maxElements)
    (hfits : ∀ i ∈ p.toList, Fits i) :
    readProgram (writeProgram p) =
      match p.validate with
      | .error flaw => .error (.badProgram flaw)
      | .ok () => .ok p := by
  have hprogram : program? (.array (p.toList.map instructionItem)) = some p := by
    have helements : (Item.array (p.toList.map instructionItem)).elements? =
        some (some (p.toList.map instructionItem)) := rfl
    rw [program?, helements]
    dsimp only
    rw [mapM_instruction? hfits]
    simp
  cases hvalid : p.validate with
  | error flaw => simp [readProgram, read_writeProgram hsize hfits, hprogram, hvalid]
  | ok _ => simp [readProgram, read_writeProgram hsize hfits, hprogram, hvalid]

/-- A longer one is written as well, but it is not read. -/
theorem readProgram_writeProgram_long (hlong : maxElements < p.size)
    (hsize : p.size < 2 ^ 64) :
    readProgram (writeProgram p) = .error (.corrupt .malformed) := by
  have hnone : read (writeProgram p) = none :=
    readItem_array_long _ 0 (p.toList.flatMap writeInstruction) hlong hsize
  rw [readProgram, hnone]

/-- The bytes of a program that is not too long tell which program it is. -/
theorem writeProgram_inj {q : Program} (hp : p.size ≤ maxElements)
    (hq : q.size ≤ maxElements) (hpfits : ∀ i ∈ p.toList, Fits i)
    (hqfits : ∀ i ∈ q.toList, Fits i) (h : writeProgram p = writeProgram q) :
    p = q := by
  have hread := read_writeProgram hp hpfits
  rw [h, read_writeProgram hq hqfits] at hread
  have hitems : q.toList.map instructionItem = p.toList.map instructionItem :=
    Item.array.inj (Prod.mk.inj (Option.some.inj hread)).1
  have hcode := mapM_instruction? hpfits
  rw [← hitems, mapM_instruction? hqfits] at hcode
  exact (Array.toList_inj.mp (Option.some.inj hcode)).symm

/-- The way of a program through its stored form, whatever its operations are and
whatever 64-bit numbers its operands are. Up to the limit of the reader it comes
back as it was, or with the flaw that the check finds in it, and no two programs
share their bytes; beyond the limit the bytes are no item. -/
theorem stored_program_comes_back_or_is_refused (hfits : ∀ i ∈ p.toList, Fits i)
    (hsize : p.size < 2 ^ 63) :
    (p.size ≤ maxElements → p.validate = .ok () →
      readProgram (writeProgram p) = .ok p) ∧
    (∀ flaw, p.size ≤ maxElements → p.validate = .error flaw →
      readProgram (writeProgram p) = .error (.badProgram flaw)) ∧
    (maxElements < p.size →
      readProgram (writeProgram p) = .error (.corrupt .malformed)) ∧
    (p.size ≤ maxElements → ∀ q : Program, q.size ≤ maxElements →
      (∀ i ∈ q.toList, Fits i) → writeProgram p = writeProgram q → p = q) := by
  refine ⟨fun hshort hvalid => ?_, fun flaw hshort hflaw => ?_, fun hlong => ?_,
    fun hshort q hq hqfits h => writeProgram_inj hshort hq hfits hqfits h⟩
  · rw [readProgram_writeProgram hshort hfits, hvalid]
  · rw [readProgram_writeProgram hshort hfits, hflaw]
  · exact readProgram_writeProgram_long hlong (by omega)

/-- The theorem at an operation that does not exist, with both ends of the 64-bit
numbers as its operands: the bytes are read and the check names the operation. -/
theorem stored_program_comes_back_or_is_refused_unknown :
    (∀ i ∈ (#[⟨.ofCode 200, -2 ^ 63, 2 ^ 63 - 1⟩] : Program).toList, Fits i) ∧
      Program.validate #[⟨.ofCode 200, -2 ^ 63, 2 ^ 63 - 1⟩] =
        .error (.unknownOp 200 0) ∧
      readProgram (writeProgram #[⟨.ofCode 200, -2 ^ 63, 2 ^ 63 - 1⟩]) =
        .error (.badProgram (.unknownOp 200 0)) := by
  have hfits : ∀ i ∈ (#[⟨.ofCode 200, -2 ^ 63, 2 ^ 63 - 1⟩] : Program).toList,
      Fits i := by
    simp [Fits, fits64]
  have hflaw : Program.validate #[⟨.ofCode 200, -2 ^ 63, 2 ^ 63 - 1⟩] =
      .error (.unknownOp 200 0) := by decide
  obtain ⟨-, hrefused, -, -⟩ :=
    stored_program_comes_back_or_is_refused hfits (by decide)
  exact ⟨hfits, hflaw, hrefused _ (by decide) hflaw⟩

end Program

end TapeDuel.Binary

namespace TapeDuel

open Binary (Fits)

/-! ## Compiled programs -/

/-- The targets of a compiled program are places of it and its counts were read
from a text, so they all are 64-bit integers as long as the places are. -/
theorem Program.Canonical.fits {p : Program} (h : p.Canonical)
    (hsize : p.size < 2 ^ 63) : ∀ i ∈ p.toList, Fits i := by
  intro i hi
  obtain ⟨k, hk⟩ := List.getElem?_of_mem hi
  rw [Array.getElem?_toList] at hk
  have hops : p.ops.length = p.size := by simp [Program.ops]
  have hplace : ∀ {n : Nat} {op : Op}, p.ops[n]? = some op → n < p.size := by
    intro n op hn
    rw [← hops]
    exact (List.getElem?_eq_some_iff.mp hn).1
  have htarget : 0 ≤ i.target ∧ i.target < 2 ^ 63 := by
    have hnames := h.linked k i hk
    rw [Instruction.Names] at hnames
    split at hnames
    · obtain ⟨t, ht, hmatched | hmatched⟩ := hnames
      · obtain ⟨_, hop, -⟩ := hmatched.closes
        have := hplace hop
        omega
      · obtain ⟨_, hop, -⟩ := hmatched.opens
        have := hplace hop
        omega
    · omega
  have hiterations : 0 ≤ i.iterations ∧ i.iterations < 2 ^ 63 := by
    have hwritten := h.written i.sign (List.mem_map_of_mem hi)
    obtain ⟨op, target, iterations⟩ := i
    cases op with
    | unknown code unassigned => exact hwritten.elim
    | repeatEnd => exact hwritten
    | _ =>
        cases (show iterations = 0 from hwritten)
        exact ⟨Int.le_refl 0, show (0 : Int) < 2 ^ 63 by decide⟩
  simp only [Fits, fits64, Bool.and_eq_true, decide_eq_true_eq]
  omega

/-- A compiled program passes the check when it is read back, so its length alone
decides whether it comes back. -/
theorem Program.Canonical.readProgram_writeProgram {p : Program} (h : p.Canonical)
    (hsize : p.size < 2 ^ 63) :
    Binary.readProgram (Binary.writeProgram p) =
      if p.size ≤ Binary.maxElements then .ok p
      else .error (.corrupt .malformed) := by
  split
  · next hshort =>
      rw [Binary.readProgram_writeProgram hshort (h.fits hsize),
        (Source.sound_of_compile h.compile_render).valid]
  · next hlong =>
      exact Binary.readProgram_writeProgram_long (Nat.lt_of_not_le hlong) (by omega)

end TapeDuel
