import BackupMonitor.Proofs.Numerals
import BackupMonitor.Time.Duration
import Mathlib.Data.List.SplitBy

/-!
# Reading the text of a duration

A text such as `1h2m3.5s` is a sum of terms, each a decimal number and a unit. It is read by cutting
it wherever a number meets a unit, and by adding up what the terms stand for.
-/

namespace BackupMonitor

/-! ## Units -/

/-- The units that the text of a duration has. -/
inductive TimeUnit where
  | hours
  | minutes
  | seconds
  | millis
  | micros
  | nanos
deriving DecidableEq, Repr

namespace TimeUnit

/-- All units. -/
def all : List TimeUnit := [hours, minutes, seconds, millis, micros, nanos]

/-- How a unit is written. -/
def symbol : TimeUnit → List Char
  | hours => ['h']
  | minutes => ['m']
  | seconds => ['s']
  | millis => ['m', 's']
  | micros => ['µ', 's']
  | nanos => ['n', 's']

/-- A unit in nanoseconds. -/
def size : TimeUnit → Nat
  | hours => 3600 * nanosPerSecond
  | minutes => 60 * nanosPerSecond
  | seconds => nanosPerSecond
  | millis => 1000000
  | micros => 1000
  | nanos => 1

/-- The unit that is written so. -/
def ofSymbol? (cs : List Char) : Option TimeUnit :=
  all.find? (·.symbol == cs)

lemma ofSymbol?_symbol (unit : TimeUnit) : ofSymbol? unit.symbol = some unit := by
  cases unit <;> rfl

lemma symbol_ne_nil (unit : TimeUnit) : unit.symbol ≠ [] := by
  cases unit <;> decide

end TimeUnit

/-! ## The reader -/

/-- Whether a character may stand in a decimal number. -/
def isNumeric (c : Char) : Bool :=
  c.isDigit || c == '.'

/-- Adds up terms that are cut into number and unit. -/
def sumOfBlocks : List (List Char) → Option ℚ
  | [] => some 0
  | [_] => none
  | number :: symbol :: rest => do
    let value ← Decimal.readNumeral number
    let unit ← TimeUnit.ofSymbol? symbol
    let sum ← sumOfBlocks rest
    some (value * unit.size + sum)

/-- Reads the text of a duration as nanoseconds. -/
def readNanosChars (cs : List Char) : Option ℚ :=
  sumOfBlocks (cs.splitBy fun c d => isNumeric c == isNumeric d)

/-- Reads the text of a duration as nanoseconds. -/
def readNanos (text : String) : Option ℚ :=
  readNanosChars text.toList

/-! ## Terms -/

/-- A decimal number without needless zeros, and a unit. -/
structure TimeTerm where
  /-- How the number is written. -/
  number : List Char
  /-- The number. -/
  value : ℚ
  /-- The unit. -/
  unit : TimeUnit
  /-- The number is written without needless zeros. -/
  isNumeral : Decimal.IsNumeral number value

namespace TimeTerm

/-- That many units. -/
def whole (count : Nat) (unit : TimeUnit) : TimeTerm :=
  ⟨Decimal.digits count, count, unit, Decimal.isNumeral_digits count⟩

/-- That many units, some of them in a fraction. -/
def fixed (value places : Nat) (unit : TimeUnit) : TimeTerm :=
  ⟨Decimal.fixedChars value places, value / tenTo places, unit,
    Decimal.isNumeral_fixedChars value places⟩

/-- The nanoseconds of a term. -/
def nanos (t : TimeTerm) : ℚ :=
  t.value * t.unit.size

/-- The number and the unit. -/
def blocks (t : TimeTerm) : List (List Char) :=
  [t.number, t.unit.symbol]

/-- The text of a sum of terms. -/
def chars (ts : List TimeTerm) : List Char :=
  (ts.flatMap blocks).flatten

/-- The nanoseconds of a sum of terms. -/
def total (ts : List TimeTerm) : ℚ :=
  ts.foldr (fun t sum => t.nanos + sum) 0

@[simp] lemma total_nil : total [] = 0 := rfl

@[simp] lemma total_cons (t : TimeTerm) (ts : List TimeTerm) :
    total (t :: ts) = t.nanos + total ts := rfl

@[simp] lemma total_append (ts us : List TimeTerm) : total (ts ++ us) = total ts + total us := by
  induction ts with
  | nil => simp
  | cons t ts ih => simp [ih, add_assoc]

@[simp] lemma nanos_whole (count : Nat) (unit : TimeUnit) :
    (whole count unit).nanos = count * unit.size := rfl

@[simp] lemma nanos_fixed (value places : Nat) (unit : TimeUnit) :
    (fixed value places unit).nanos = value / tenTo places * unit.size := rfl

/-! ## Cutting a text into its terms -/

variable (t : TimeTerm) (ts : List TimeTerm)

lemma isNumeric_of_mem_number {c : Char} (hc : c ∈ t.number) : isNumeric c = true := by
  have hdigit {ds : List Char} (hds : Decimal.AreDigits ds) (h : c ∈ ds) : isNumeric c = true := by
    simp [isNumeric, hds c h]
  obtain ⟨number, value, unit, h⟩ := t
  cases h with
  | whole hds => exact hdigit hds.digits hc
  | fraction hds hfs =>
    rcases List.mem_append.mp hc with hc | hc
    · exact hdigit hds.digits hc
    · rcases List.mem_cons.mp hc with rfl | hc
      · rfl
      · exact hdigit hfs hc

lemma number_ne_nil : t.number ≠ [] := by
  obtain ⟨number, value, unit, h⟩ := t
  cases h with
  | whole hds => exact hds.ne_nil
  | fraction => simp

lemma not_isNumeric_of_mem_symbol {c : Char} (hc : c ∈ t.unit.symbol) : isNumeric c = false := by
  revert hc
  cases t.unit <;> simp only [TimeUnit.symbol, List.mem_cons, List.not_mem_nil, or_false] <;>
    rintro (rfl | rfl) <;> rfl

/-- Two neighbouring blocks can be told apart where they meet. -/
def AreApart (a b : List Char) : Prop :=
  ∃ (ha : a ≠ []) (hb : b ≠ []), (isNumeric (a.getLast ha) == isNumeric (b.head hb)) = false

lemma areApart_number_symbol : AreApart t.number t.unit.symbol := by
  refine ⟨t.number_ne_nil, t.unit.symbol_ne_nil, ?_⟩
  rw [t.isNumeric_of_mem_number (List.getLast_mem _),
    t.not_isNumeric_of_mem_symbol (List.head_mem _)]
  rfl

lemma areApart_symbol_number (u : TimeTerm) : AreApart t.unit.symbol u.number := by
  refine ⟨t.unit.symbol_ne_nil, u.number_ne_nil, ?_⟩
  rw [t.not_isNumeric_of_mem_symbol (List.getLast_mem _),
    u.isNumeric_of_mem_number (List.head_mem _)]
  rfl

lemma isChain_areApart : (ts.flatMap blocks).IsChain AreApart := by
  induction ts with
  | nil => exact .nil
  | cons t ts ih =>
    cases ts with
    | nil => exact .cons_cons t.areApart_number_symbol (.singleton _)
    | cons u ts =>
      exact .cons_cons t.areApart_number_symbol (.cons_cons (t.areApart_symbol_number u) ih)

/-- A text of terms is cut into their numbers and units. -/
lemma splitBy_chars : (chars ts).splitBy (fun c d => isNumeric c == isNumeric d) =
    ts.flatMap blocks := by
  -- the cuts fall where a number meets a unit or a unit a number, and nowhere inside a block
  refine List.splitBy_flatten ?_ ?_ (isChain_areApart ts)
  · intro hnil
    obtain ⟨t, -, hnil⟩ := List.mem_flatMap.mp hnil
    rcases List.mem_cons.mp hnil with hnil | hnil
    · exact t.number_ne_nil hnil.symm
    · exact t.unit.symbol_ne_nil (List.mem_singleton.mp hnil).symm
  · intro block hblock
    obtain ⟨t, -, hblock⟩ := List.mem_flatMap.mp hblock
    refine List.Pairwise.isChain (List.pairwise_of_forall_mem_list fun c hc d hd => ?_)
    rcases List.mem_cons.mp hblock with rfl | hblock
    · rw [t.isNumeric_of_mem_number hc, t.isNumeric_of_mem_number hd]
      rfl
    · obtain rfl := List.mem_singleton.mp hblock
      rw [t.not_isNumeric_of_mem_symbol hc, t.not_isNumeric_of_mem_symbol hd]
      rfl

/-- A sum of terms reads as what it comes to. -/
lemma readNanosChars_chars : readNanosChars (chars ts) = some (total ts) := by
  rw [readNanosChars, splitBy_chars]
  induction ts with
  | nil => rfl
  | cons t ts ih =>
    rw [List.flatMap_cons, blocks, List.cons_append, List.cons_append, List.nil_append,
      sumOfBlocks, Decimal.readNumeral_of_isNumeral t.isNumeral, t.unit.ofSymbol?_symbol, ih]
    rfl

end TimeTerm

end BackupMonitor
