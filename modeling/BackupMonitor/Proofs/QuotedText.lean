import BackupMonitor.Json.Lexer
import BackupMonitor.Text.Quoted
import Mathlib.Tactic.Lemma

/-!
# Reading quoted text

`Text.quote` puts a text between quotes. Here it is read back, in two steps that know nothing of
each other: `Text.spanQuoted` looks for the quote at the end, which is the first one that no
backslash escapes, and `Text.unescape` takes what stands before it for the text. A quoted text ends
at its last quote, whatever comes after it, and stands for the text that was quoted.
-/

namespace BackupMonitor.Text

/-- Splits a list of characters at the first quote; `escaped` says whether a backslash takes the
first character with it. -/
def spanQuoted (escaped : Bool) : List Char → Option (List Char × List Char)
  | [] => none
  | c :: rest =>
    if escaped then (spanQuoted false rest).map (Prod.map (c :: ·) id)
    else if c = '"' then some ([], rest)
    else (spanQuoted (c == '\\') rest).map (Prod.map (c :: ·) id)

/-- The character of a short escape. -/
def shortEscape? (e : Char) : Option Char :=
  match e with
  | '"' => some '"'
  | '\\' => some '\\'
  | '\'' => some '\''
  | 'n' => some '\n'
  | 'r' => some '\r'
  | 't' => some '\t'
  | '0' => some '\x00'
  | _ => none

/-- Where a reader of escapes is. -/
inductive EscapePlace where
  /-- Between two characters. -/
  | plain
  /-- After a backslash. -/
  | escape
  /-- Where the brace opens. -/
  | brace
  /-- Between the braces, with the number that the digits so far write. -/
  | code (value : Option Nat)

/-- What escaped characters stand for, from a place on. -/
def unescapeFrom : EscapePlace → List Char → Option (List Char)
  | .plain, [] => some []
  | _, [] => none
  | .plain, c :: rest =>
    if c = '"' then none
    else if c = '\\' then unescapeFrom .escape rest
    else (unescapeFrom .plain rest).map (c :: ·)
  | .escape, e :: rest =>
    if e = 'u' then unescapeFrom .brace rest
    else
      match shortEscape? e with
      | some c => (unescapeFrom .plain rest).map (c :: ·)
      | none => none
  | .brace, c :: rest => if c = '\x7b' then unescapeFrom (.code none) rest else none
  | .code value, d :: rest =>
    if d = '\x7d' then
      match value with
      | some n => if n.isValidChar then (unescapeFrom .plain rest).map (Char.ofNat n :: ·) else none
      | none => none
    else
      match Json.hexValue? d with
      | some digit => unescapeFrom (.code (some (value.getD 0 * 16 + digit))) rest
      | none => none

/-- The text that escaped characters stand for; none if a quote or an escape is out of place. -/
def unescape (inside : List Char) : Option (List Char) :=
  unescapeFrom .plain inside

/-- Reads the quoted text at the front: the text that it stands for, and what follows it. -/
def readQuoted : List Char → Option (List Char × List Char)
  | '"' :: rest =>
    match spanQuoted false rest with
    | some (inside, rest) => (unescape inside).map fun text => (text, rest)
    | none => none
  | _ => none

/-- The literal is one quoted text that stands for `text`: it begins and ends with a quote, no quote
between these two is unescaped, so it ends where it ends whatever follows, and what stands between
them stands for the text. -/
def IsQuotedForm (literal text : String) : Prop :=
  ∃ inside, literal.toList = '"' :: inside ++ ['"'] ∧
    (∀ rest, spanQuoted false (inside ++ '"' :: rest) = some (inside, rest)) ∧
    unescape inside = some text.toList

/-! ## The form of one character -/

lemma hexValue?_digitChar {k : Nat} (h : k < 16) : Json.hexValue? (Nat.digitChar k) = some k := by
  have hall : ∀ k < 16, Json.hexValue? (Nat.digitChar k) = some k := by decide
  exact hall k h

lemma digitChar_ne_brace {k : Nat} (h : k < 16) : Nat.digitChar k ≠ '\x7d' := by
  have hall : ∀ k < 16, Nat.digitChar k ≠ '\x7d' := by decide
  exact hall k h

/-- A hexadecimal digit is neither a quote nor a backslash. -/
lemma plain_of_mem_hexDigits {n : Nat} {d : Char} (h : d ∈ hexDigits n) : d ≠ '"' ∧ d ≠ '\\' := by
  have hall : ∀ k < 16, Nat.digitChar k ≠ '"' ∧ Nat.digitChar k ≠ '\\' := by decide
  induction n using Nat.strongRecOn with
  | _ n ih =>
    rcases Nat.lt_or_ge n 16 with hn | hn
    · rw [hexDigits, Nat.toDigits_of_lt_base hn, List.mem_singleton] at h
      exact h ▸ hall n hn
    · rw [hexDigits, Nat.toDigits_of_base_le (by decide) hn] at h
      rcases List.mem_append.mp h with h | h
      · exact ih (n / 16) (by omega) h
      · exact List.mem_singleton.mp h ▸ hall (n % 16) (by omega)

/-- Hexadecimal digits read as the number that they write. -/
lemma unescapeFrom_hexDigits (n : Nat) (rest : List Char) :
    unescapeFrom (.code none) (hexDigits n ++ rest) = unescapeFrom (.code (some n)) rest := by
  induction n using Nat.strongRecOn generalizing rest with
  | _ n ih =>
    rcases Nat.lt_or_ge n 16 with hn | hn
    · simp [hexDigits, Nat.toDigits_of_lt_base hn, unescapeFrom, digitChar_ne_brace hn,
        hexValue?_digitChar hn]
    · have hlast : n % 16 < 16 := by omega
      have hsum : n / 16 * 16 + n % 16 = n := by omega
      have hdigits : hexDigits n = hexDigits (n / 16) ++ [Nat.digitChar (n % 16)] :=
        Nat.toDigits_of_base_le (by decide) hn
      rw [hdigits, List.append_assoc, ih (n / 16) (by omega), List.singleton_append]
      simp [unescapeFrom, digitChar_ne_brace hlast, hexValue?_digitChar hlast, hsum]

/-- The form of a character stands for that character. -/
lemma unescapeFrom_escapeChar (c : Char) (rest : List Char) :
    unescapeFrom .plain (escapeChar c ++ rest) = (unescapeFrom .plain rest).map (c :: ·) := by
  unfold escapeChar
  split
  next h => rw [h]; rfl
  split
  next h => rw [h]; rfl
  split
  next h => rw [h]; rfl
  split
  next h => rw [h]; rfl
  split
  next h => rw [h]; rfl
  split
  next h => rw [h]; rfl
  split
  next hquote hslash _ _ _ _ _ => simp [unescapeFrom, hquote, hslash]
  next =>
    have hvalid : c.toNat.isValidChar := c.valid
    have hcode : unescapeFrom .plain
        (['\\', 'u', '\x7b'] ++ hexDigits c.toNat ++ ['\x7d'] ++ rest) =
        unescapeFrom (.code none) (hexDigits c.toNat ++ '\x7d' :: rest) := by
      rw [List.append_assoc, List.append_assoc]
      rfl
    rw [hcode, unescapeFrom_hexDigits]
    simp [unescapeFrom, hvalid]

/-- Characters that are neither quotes nor backslashes are passed over. -/
lemma spanQuoted_append {cs : List Char} (h : ∀ c ∈ cs, c ≠ '"' ∧ c ≠ '\\') (rest : List Char) :
    spanQuoted false (cs ++ rest) = (spanQuoted false rest).map (Prod.map (cs ++ ·) id) := by
  induction cs with
  | nil => cases hrest : spanQuoted false rest <;> simp [hrest, Prod.map]
  | cons c cs ih =>
    obtain ⟨hquote, hslash⟩ := h c (by simp)
    have hplain : (c == '\\') = false := by simpa using hslash
    have hrest := ih fun d hd => h d (by simp [hd])
    rw [List.cons_append, spanQuoted, if_neg (by decide), if_neg hquote, hplain, hrest,
      Option.map_map]
    rfl

/-- A backslash and the character after it are passed over, whatever that is. -/
lemma spanQuoted_backslash (e : Char) (rest : List Char) :
    spanQuoted false ('\\' :: e :: rest) =
      (spanQuoted false rest).map (Prod.map (['\\', e] ++ ·) id) := by
  cases hrest : spanQuoted false rest <;> simp [spanQuoted, hrest, Prod.map]

/-- The form of a character is passed over. -/
lemma spanQuoted_escapeChar (c : Char) (rest : List Char) :
    spanQuoted false (escapeChar c ++ rest) =
      (spanQuoted false rest).map (Prod.map (escapeChar c ++ ·) id) := by
  unfold escapeChar
  split
  next => exact spanQuoted_backslash _ rest
  split
  next => exact spanQuoted_backslash _ rest
  split
  next => exact spanQuoted_backslash _ rest
  split
  next => exact spanQuoted_backslash _ rest
  split
  next => exact spanQuoted_backslash _ rest
  split
  next => exact spanQuoted_backslash _ rest
  split
  next hquote hslash _ _ _ _ _ => exact spanQuoted_append (by simp [hquote, hslash]) rest
  next =>
    -- the backslash takes the letter with it; digits and braces are plain characters
    have hplain : ∀ d ∈ '\x7b' :: (hexDigits c.toNat ++ ['\x7d']), d ≠ '"' ∧ d ≠ '\\' := by
      intro d hd
      rcases List.mem_cons.mp hd with rfl | hd
      · decide
      · rcases List.mem_append.mp hd with hd | hd
        · exact plain_of_mem_hexDigits hd
        · rw [List.mem_singleton.mp hd]
          decide
    have hspan := spanQuoted_append hplain rest
    show spanQuoted false
      ('\\' :: 'u' :: ('\x7b' :: (hexDigits c.toNat ++ ['\x7d']) ++ rest)) = _
    rw [spanQuoted_backslash, hspan, Option.map_map]
    rfl

/-! ## Quoted texts -/

/-- A text with every character in its form, as it stands between the quotes. -/
def inside (text : String) : List Char :=
  text.toList.flatMap escapeChar

lemma toList_quote (text : String) : (quote text).toList = '"' :: inside text ++ ['"'] := by
  rw [quote, String.toList_ofList]
  rfl

/-- No quote stands between the quotes without a backslash. -/
lemma spanQuoted_inside (text : String) (rest : List Char) :
    spanQuoted false (inside text ++ '"' :: rest) = some (inside text, rest) := by
  unfold inside
  induction text.toList with
  | nil => rfl
  | cons c cs ih =>
    rw [List.flatMap_cons, List.append_assoc, spanQuoted_escapeChar, ih]
    rfl

/-- What stands between the quotes stands for the text. -/
lemma unescape_inside (text : String) : unescape (inside text) = some text.toList := by
  unfold inside unescape
  induction text.toList with
  | nil => rfl
  | cons c cs ih => rw [List.flatMap_cons, unescapeFrom_escapeChar, ih]; rfl

lemma isQuotedForm_quote (text : String) : IsQuotedForm (quote text) text :=
  ⟨inside text, toList_quote text, spanQuoted_inside text, unescape_inside text⟩

/-- A quoted text is read as the text, up to its last quote and whatever follows it. -/
theorem readQuoted_quote (text : String) (rest : List Char) :
    readQuoted ((quote text).toList ++ rest) = some (text.toList, rest) := by
  have hquoted : (quote text).toList ++ rest = '"' :: (inside text ++ '"' :: rest) := by
    simp [toList_quote]
  rw [hquoted, readQuoted, spanQuoted_inside]
  simp [unescape_inside]

end BackupMonitor.Text
