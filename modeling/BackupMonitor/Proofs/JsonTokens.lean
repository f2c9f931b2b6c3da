import BackupMonitor.Json.Draft
import BackupMonitor.Json.Writer
import BackupMonitor.Proofs.Digits
import Mathlib.Tactic.IntervalCases

/-!
# The tokens of written JSON

`Json.chars` writes a value and `Json.tokens` splits a text into tokens. For a value without
floating point numbers, whose whole numbers fit 64 bits, the tokens are those of the value itself
(`Json.written`): every character of a text comes back from its escape, and every number from its
digits.
-/

namespace BackupMonitor.Json

/-! ## Values that are written exactly -/

mutual

/-- The value can be read back from its text, if values are nested at most `depth` deep: it has no
floating point number, and its whole numbers fit 64 bits. -/
def IsReadable (depth : Nat) : Json → Prop
  | float _ => False
  | int n => -(twoTo 63 : Int) ≤ n ∧ n < twoTo 64
  | array items =>
    match depth with
    | 0 => False
    | depth + 1 => AreReadable depth items
  | object fields =>
    match depth with
    | 0 => False
    | depth + 1 => FieldsAreReadable depth fields
  | _ => True

/-- Every value of a list can be read back. -/
def AreReadable (depth : Nat) : List Json → Prop
  | [] => True
  | v :: rest => IsReadable depth v ∧ AreReadable depth rest

/-- The value of every field can be read back. -/
def FieldsAreReadable (depth : Nat) : List (String × Json) → Prop
  | [] => True
  | (_, v) :: rest => IsReadable depth v ∧ FieldsAreReadable depth rest

end

mutual

/-- The tokens of a value. -/
def written : Json → List Token
  | null => [.word .null]
  | bool b => [.word (.bool b)]
  | int n => [.number (some (.int n))]
  | float x => [.number (some (.float x))]
  | string s => [.text (some s)]
  | array items => .openList :: writtenItems items ++ [.closeList]
  | object fields => .openObject :: writtenFields fields ++ [.closeObject]

/-- The tokens of a list of values, with commas between them. -/
def writtenItems : List Json → List Token
  | [] => []
  | [v] => written v
  | v :: w :: rest => written v ++ .comma :: writtenItems (w :: rest)

/-- The tokens of a list of fields, with commas between them. -/
def writtenFields : List (String × Json) → List Token
  | [] => []
  | [(key, v)] => .text (some key) :: .colon :: written v
  | (key, v) :: field :: rest =>
    .text (some key) :: .colon :: written v ++ .comma :: writtenFields (field :: rest)

end

namespace Lexer

/-! ## One character -/

lemma run_of_goOn {s t : State} {c : Char} (h : step s c = goOn t) (rest : List Char) :
    run s (c :: rest) = run t rest := by
  simp [run, h, goOn]

lemma run_of_complete {s : State} {c : Char} {k : Token} (h : step s c = complete k)
    (rest : List Char) : run s (c :: rest) = k :: run .between rest := by
  simp [run, h, complete]

/-! ## Texts -/

/-- A control character has an escape of four digits, each of them one byte, that reads back as its
code. -/
lemma hexPair_of_lt {n : Nat} (h : n < 0x20) :
    ∃ high low, hexPair n = [high, low] ∧ high.utf8Size = 1 ∧ low.utf8Size = 1 ∧
      hexQuad? '0' '0' high low = some n := by
  have hall : ∀ n < 0x20, (Nat.digitChar (n / 16 % 16)).utf8Size = 1 ∧
      (Nat.digitChar (n % 16)).utf8Size = 1 ∧
      hexQuad? '0' '0' (Nat.digitChar (n / 16 % 16)) (Nat.digitChar (n % 16)) = some n := by
    decide
  exact ⟨_, _, rfl, hall n h⟩

/-- The machine takes four digits for the code unit that they write. -/
lemma run_hexQuad {high low : Char} (hhigh : high.utf8Size = 1) (hlow : low.utf8Size = 1)
    {unit : Nat} (hunit : hexQuad? '0' '0' high low = some unit) (t : OpenText)
    (rest : List Char) :
    run (.inText { t with place := .unit [] }) ('0' :: '0' :: high :: low :: rest) =
      run (.inText ({ t with place := .unit ['0', '0', high] }.pushUnit unit)) rest := by
  have hzero : '0'.utf8Size = 1 := rfl
  rw [run_of_goOn (t := .inText { t with place := .unit ['0'] }),
    run_of_goOn (t := .inText { t with place := .unit ['0', '0'] }),
    run_of_goOn (t := .inText { t with place := .unit ['0', '0', high] }),
    run_of_goOn (t := .inText ({ t with place := .unit ['0', '0', high] }.pushUnit unit))]
  all_goals simp [step, continueText, byteCount, hzero, hhigh, hlow, hunit]

/-- The code of a control character is no half of a surrogate pair. -/
lemma pushUnit_of_lt {n : Nat} (h : n < 0x20) (place : TextPlace) (read : List Char) :
    OpenText.pushUnit { place, read } n = { read := Char.ofNat n :: read } := by
  have hhigh : isHighHalf n = false := by simp [isHighHalf]; omega
  have hlow : isLowHalf n = false := by simp [isLowHalf]; omega
  simp [OpenText.pushUnit, hhigh, hlow, OpenText.push]

/-- The machine takes the form of a character for that character. -/
lemma run_escapeChar (c : Char) (read rest : List Char) :
    run (.inText { read }) (escapeChar c ++ rest) = run (.inText { read := c :: read }) rest := by
  unfold escapeChar
  split
  next h => rw [h]; rfl
  split
  next h => rw [h]; rfl
  split
  next h => rw [h]; rfl
  split
  next h => rw [h]; rfl
  split
  next h => rw [h]; rfl
  split
  next h => rw [h]; rfl
  split
  next h => rw [h]; rfl
  split
  next hcontrol =>
    obtain ⟨high, low, hpair, hhigh, hlow, hquad⟩ := hexPair_of_lt hcontrol
    have hunit := run_hexQuad hhigh hlow hquad { read } rest
    rw [pushUnit_of_lt hcontrol, Char.ofNat_toNat] at hunit
    rw [hpair, ← hunit]
    rfl
  next hquote hslash _ _ _ _ _ hcontrol =>
    refine run_of_goOn ?_ rest
    simp [step, continueText, hquote, hslash, hcontrol, OpenText.push, OpenText.dropHalf]

/-- The machine takes the rest of a quoted text for what was quoted. -/
lemma run_flatMap_escapeChar (cs read rest : List Char) :
    run (.inText { read }) (cs.flatMap escapeChar ++ '"' :: rest) =
      .text (some (String.ofList (read.reverse ++ cs))) :: run .between rest := by
  induction cs generalizing read with
  | nil =>
    refine run_of_complete ?_ rest
    simp [step, continueText, OpenText.token, OpenText.dropHalf]
  | cons c cs ih =>
    rw [List.flatMap_cons, List.append_assoc, run_escapeChar, ih]
    simp

/-- The token of a quoted text is that text. -/
lemma run_quoteChars (s : String) (rest : List Char) :
    run .between (quoteChars s.toList ++ rest) = .text (some s) :: run .between rest := by
  have hquoted : quoteChars s.toList ++ rest =
      '"' :: (s.toList.flatMap escapeChar ++ '"' :: rest) := by
    simp [quoteChars]
  rw [hquoted, run_of_goOn (t := .inText {}) rfl, run_flatMap_escapeChar]
  simp

/-! ## Whole numbers -/

/-- A value may end here: nothing follows, or what separates or closes. -/
def IsEnd (rest : List Char) : Prop :=
  ∀ c, rest.head? = some c → c = ',' ∨ c = ']' ∨ c = '\x7d'

@[simp] lemma isEnd_nil : IsEnd [] := by simp [IsEnd]

@[simp] lemma isEnd_comma (rest : List Char) : IsEnd (',' :: rest) := by simp [IsEnd]

@[simp] lemma isEnd_closeList (rest : List Char) : IsEnd (']' :: rest) := by simp [IsEnd]

@[simp] lemma isEnd_closeObject (rest : List Char) : IsEnd ('\x7d' :: rest) := by simp [IsEnd]

/-- A number ends where a value may end. -/
lemma run_inNumber_of_isEnd {place : NumberPlace} (hplace : place = .zero ∨ place = .whole)
    (numeral : Numeral) {rest : List Char} (h : IsEnd rest) :
    run (.inNumber place numeral) rest = .number numeral.value? :: run .between rest := by
  cases rest with
  | nil => rcases hplace with rfl | rfl <;> rfl
  | cons c rest =>
    rcases h c rfl with rfl | rfl | rfl <;> rcases hplace with rfl | rfl <;> rfl

/-- The machine takes digits to the end of a number. -/
lemma run_inNumber_whole {ds rest : List Char} (hds : Decimal.AreDigits ds) (h : IsEnd rest)
    (numeral : Numeral) :
    run (.inNumber .whole numeral) (ds ++ rest) =
      .number { numeral with whole := numeral.whole ++ ds }.value? :: run .between rest := by
  induction ds generalizing numeral with
  | nil => simpa using run_inNumber_of_isEnd (.inr rfl) numeral h
  | cons d ds ih =>
    have hd : d.isDigit = true := hds d (by simp)
    have hstep : step (.inNumber .whole numeral) d =
        goOn (.inNumber .whole { numeral with whole := numeral.whole ++ [d] }) := by
      simp [step, continueNumber, hd, pushDigit]
    rw [List.cons_append, run_of_goOn hstep, ih (fun e he => hds e (by simp [he]))]
    simp

/-- A digit that is no zero begins a number, also after a minus sign. -/
lemma begin_digit {d : Char} (hd : d.isDigit = true) (hzero : d ≠ '0') :
    step .between d = goOn (.inNumber .whole { negative := false, whole := [d] }) ∧
      step (.inNumber .sign { negative := true, whole := [] }) d =
        goOn (.inNumber .whole { negative := true, whole := [d] }) := by
  obtain ⟨k, hk, rfl⟩ := Decimal.exists_digitChar hd
  interval_cases k
  · exact absurd rfl hzero
  all_goals exact ⟨rfl, rfl⟩

/-- The number that digits after an optional minus sign make up, if it fits 64 bits. -/
lemma value?_whole (negative : Bool) (n : Nat) (hn : if negative then 0 < n ∧ n ≤ twoTo 63
    else n < twoTo 64) :
    { negative, whole := Decimal.digits n : Numeral }.value? =
      some (.int (if negative then -(n : Int) else n)) := by
  cases negative <;> simp_all [Numeral.value?]

/-- The token of a whole number is that number. -/
lemma run_intChars {n : Int} (hn : -(twoTo 63 : Int) ≤ n ∧ n < twoTo 64) {rest : List Char}
    (h : IsEnd rest) :
    run .between (intChars n ++ rest) = .number (some (.int n)) :: run .between rest := by
  cases n with
  | ofNat n =>
    have hvalue := value?_whole false n (by simpa using Int.ofNat_lt.mp hn.2)
    rcases Nat.eq_zero_or_pos n with rfl | hpos
    · have hrun := run_inNumber_of_isEnd (.inl rfl) { negative := false, whole := ['0'] } h
      rw [show (['0'] : List Char) = Decimal.digits 0 from rfl, hvalue] at hrun
      exact hrun
    · obtain ⟨d, ds, hdigits⟩ := List.exists_cons_of_ne_nil (Decimal.digits_ne_nil n)
      have hall := Decimal.areDigits_digits n
      have hhead := Decimal.head?_digits_ne_zero hpos
      rw [hdigits] at hall hhead
      have hbegin := (begin_digit (hall d (by simp)) (by simpa using hhead)).1
      have hfirst : run .between (intChars (.ofNat n) ++ rest) =
          run (.inNumber .whole { negative := false, whole := [d] }) (ds ++ rest) := by
        rw [intChars, show Nat.toDigits 10 n = d :: ds from hdigits, List.cons_append,
          run_of_goOn hbegin]
      rw [hfirst, run_inNumber_whole (fun e he => hall e (by simp [he])) h]
      rw [hdigits] at hvalue
      simpa using hvalue
  | negSucc n =>
    have hvalue := value?_whole true (n + 1) (by
      have := hn.1
      simp only [if_true]
      omega)
    obtain ⟨d, ds, hdigits⟩ := List.exists_cons_of_ne_nil (Decimal.digits_ne_nil (n + 1))
    have hall := Decimal.areDigits_digits (n + 1)
    have hhead := Decimal.head?_digits_ne_zero (Nat.succ_pos n)
    rw [hdigits] at hall hhead
    have hsign := (begin_digit (hall d (by simp)) (by simpa using hhead)).2
    have hfirst : run .between (intChars (.negSucc n) ++ rest) =
        run (.inNumber .whole { negative := true, whole := [d] }) (ds ++ rest) := by
      rw [intChars, show Nat.toDigits 10 (n + 1) = d :: ds from hdigits, List.cons_append,
        List.cons_append,
        run_of_goOn (t := .inNumber .sign { negative := true, whole := [] }) rfl,
        run_of_goOn hsign]
    rw [hfirst, run_inNumber_whole (fun e he => hall e (by simp [he])) h]
    rw [hdigits] at hvalue
    simpa [Int.negSucc_eq] using hvalue

/-! ## Values -/

mutual

/-- The tokens of a written value are those of the value. -/
lemma run_chars {depth : Nat} {rest : List Char} (h : IsEnd rest) : ∀ {v : Json},
    v.IsReadable depth → run .between (v.chars ++ rest) = v.written ++ run .between rest
  | .null, _ => rfl
  | .bool true, _ => rfl
  | .bool false, _ => rfl
  | .int n, hv => run_intChars hv h
  | .float x, hv => hv.elim
  | .string s, _ => run_quoteChars s rest
  | .array items, hv => by
    cases depth with
    | zero => exact hv.elim
    | succ depth =>
      have hitems : run .between (itemsChars items ++ ']' :: rest) =
          writtenItems items ++ run .between (']' :: rest) := run_itemsChars (by simp) hv
      have hopen : run .between ((Json.array items).chars ++ rest) =
          .openList :: run .between (itemsChars items ++ ']' :: rest) := by
        rw [← run_of_complete (s := .between) (c := '[') rfl, chars]
        simp
      rw [hopen, hitems, run_of_complete (k := .closeList) rfl, written]
      simp
  | .object fields, hv => by
    cases depth with
    | zero => exact hv.elim
    | succ depth =>
      have hfields : run .between (fieldsChars fields ++ '\x7d' :: rest) =
          writtenFields fields ++ run .between ('\x7d' :: rest) := run_fieldsChars (by simp) hv
      have hopen : run .between ((Json.object fields).chars ++ rest) =
          .openObject :: run .between (fieldsChars fields ++ '\x7d' :: rest) := by
        rw [← run_of_complete (s := .between) (c := '\x7b') rfl, chars]
        simp
      rw [hopen, hfields, run_of_complete (k := .closeObject) rfl, written]
      simp

/-- The tokens of written values are those of the values. -/
lemma run_itemsChars {depth : Nat} {rest : List Char} (h : IsEnd rest) : ∀ {items : List Json},
    AreReadable depth items →
      run .between (itemsChars items ++ rest) = writtenItems items ++ run .between rest
  | [], _ => rfl
  | [v], hv => run_chars h hv.1
  | v :: w :: rest', hv => by
    have hrest := run_itemsChars h hv.2
    rw [itemsChars, List.append_assoc, run_chars (by simp) hv.1, writtenItems, List.append_assoc,
      List.cons_append, List.cons_append, ← hrest]
    rfl

/-- The tokens of written fields are those of the fields. -/
lemma run_fieldsChars {depth : Nat} {rest : List Char} (h : IsEnd rest) :
    ∀ {fields : List (String × Json)}, FieldsAreReadable depth fields →
      run .between (fieldsChars fields ++ rest) = writtenFields fields ++ run .between rest
  | [], _ => rfl
  | [(key, v)], hv => by
    rw [fieldsChars, List.append_assoc, run_quoteChars, List.cons_append, writtenFields]
    have hvalue := run_chars h hv.1
    show _ :: .colon :: run .between _ = _
    rw [hvalue]
    rfl
  | (key, v) :: field :: rest', hv => by
    have hrest := run_fieldsChars h hv.2
    rw [fieldsChars, List.append_assoc, List.append_assoc, run_quoteChars, List.cons_append,
      writtenFields]
    have hvalue : run .between (v.chars ++ ',' :: (fieldsChars (field :: rest') ++ rest)) =
        v.written ++ run .between (',' :: (fieldsChars (field :: rest') ++ rest)) :=
      run_chars (by simp) hv.1
    show _ :: .colon :: run .between (v.chars ++ _) = _
    rw [List.cons_append, hvalue]
    show _ :: .colon :: (v.written ++ .comma :: run .between _) = _
    rw [hrest]
    simp

end

end Lexer

/-- The tokens of a written value are those of the value. -/
theorem tokens_chars {v : Json} {depth : Nat} (h : v.IsReadable depth) :
    tokens v.chars = v.written := by
  have hrun : Lexer.run .between (v.chars ++ []) = v.written ++ Lexer.run .between [] :=
    Lexer.run_chars (by simp) h
  simpa [tokens, Lexer.run, Lexer.finish] using hrun

end BackupMonitor.Json
