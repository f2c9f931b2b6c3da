import BackupMonitor.Json.Reader
import BackupMonitor.Proofs.JsonTokens

/-!
# Written JSON reads back

A value without floating point numbers, whose whole numbers fit 64 bits and which is not nested too
deep, reads back from its text (`Json.parse_compact`). What comes back is the value with the fields
of every object sorted, and of two fields of one name the later one (`Json.kept`).
-/

namespace BackupMonitor

/-- Two steps of reading succeed if the first does, and the second does with what it gives. -/
lemma Except.bind_eq_ok_iff {ε α β : Type} {x : Except ε α} {f : α → Except ε β} {b : β} :
    x >>= f = .ok b ↔ ∃ a, x = .ok a ∧ f a = .ok b := by
  cases x <;> simp [bind, Except.bind]

namespace Json

mutual

/-- What a reader keeps of a value. -/
def kept : Json → Json
  | array items => .array (keptItems items)
  | object fields => .object (keptFields ∅ fields).entries
  | v => v

/-- What a reader keeps of the values of a list. -/
def keptItems : List Json → List Json
  | [] => []
  | v :: rest => kept v :: keptItems rest

/-- What a reader keeps of fields, on top of those it has read. -/
def keptFields (before : Table Json) : List (String × Json) → Table Json
  | [] => before
  | (key, v) :: rest => keptFields (before.insert key (kept v)) rest

end

mutual

/-- The draft of a value. -/
def drafted : Json → Draft
  | int n => .number (some (.int n))
  | float x => .number (some (.float x))
  | string s => .text (some s)
  | array items => .list (draftedItems items) .closed
  | object fields => .object (draftedFields fields) .closed
  | v => .word v

/-- The drafts of the values of a list. -/
def draftedItems : List Json → List Draft
  | [] => []
  | v :: rest => drafted v :: draftedItems rest

/-- The drafts of fields. -/
def draftedFields : List (String × Json) → List (Option String × Draft)
  | [] => []
  | (key, v) :: rest => (some key, drafted v) :: draftedFields rest

end

namespace Draft

/-! ## From tokens to a draft -/

/-- The first token of a value begins a value. -/
lemma written_eq_cons (v : Json) :
    ∃ token tokens, v.written = token :: tokens ∧ (afterFirst? token).isSome = true := by
  cases v <;> exact ⟨_, _, rfl, rfl⟩

lemma build_firstItem {token : Token} (h : (afterFirst? token).isSome = true)
    (stack : List Frame) (tokens : List Token) :
    build stack .firstItem (token :: tokens) =
      build (.item [] :: stack) .value (token :: tokens) := by
  cases token with
  | closeList => cases h
  | _ => rfl

/-- A list that begins with a value goes on like one that a value was found missing in. -/
lemma build_firstItem_written (v : Json) (stack : List Frame) (tokens : List Token) :
    build stack .firstItem (v.written ++ tokens) =
      build (.item [] :: stack) .value (v.written ++ tokens) := by
  obtain ⟨token, rest, hwritten, hfirst⟩ := written_eq_cons v
  rw [hwritten, List.cons_append, build_firstItem hfirst]

lemma writtenItems_cons (v : Json) (items : List Json) :
    ∃ tokens, writtenItems (v :: items) = v.written ++ tokens := by
  cases items with
  | nil => exact ⟨[], by simp [writtenItems]⟩
  | cons w items => exact ⟨.comma :: writtenItems (w :: items), rfl⟩

mutual

/-- The tokens of a value build its draft. -/
lemma build_written (stack : List Frame) (rest : List Token) : ∀ v : Json,
    build stack .value (v.written ++ rest) = build stack (.after v.drafted) rest
  | .null => rfl
  | .bool _ => rfl
  | .int _ => rfl
  | .float _ => rfl
  | .string _ => rfl
  | .array [] => rfl
  | .array (v :: items) => by
    have hopen : build stack .value ((Json.array (v :: items)).written ++ rest) =
        build (.item [] :: stack) .value (writtenItems (v :: items) ++ .closeList :: rest) := by
      obtain ⟨tokens, htokens⟩ := writtenItems_cons v items
      have hfirst := build_firstItem_written v stack (tokens ++ .closeList :: rest)
      rw [htokens, List.append_assoc, ← hfirst, written, htokens]
      simp [build, afterFirst?]
    rw [hopen, build_writtenItems stack [] rest (v :: items) (by simp)]
    rfl
  | .object [] => rfl
  | .object (field :: fields) => by
    have hopen : build stack .value ((Json.object (field :: fields)).written ++ rest) =
        build stack (.name []) (writtenFields (field :: fields) ++ .closeObject :: rest) := by
      rw [written]
      simp [build, afterFirst?]
    rw [hopen, build_writtenFields stack [] rest (field :: fields) (by simp)]
    rfl

/-- The tokens of values build the rest of a list. -/
lemma build_writtenItems (stack : List Frame) (before : List Draft) (rest : List Token) :
    ∀ items : List Json, items ≠ [] →
      build (.item before :: stack) .value (writtenItems items ++ .closeList :: rest) =
        build stack (.after (.list (before.reverse ++ draftedItems items) .closed)) rest
  | [], h => absurd rfl h
  | [v], _ => by
    rw [writtenItems, build_written _ _ v]
    simp [build, draftedItems]
  | v :: w :: items, _ => by
    have hrest := build_writtenItems stack (v.drafted :: before) rest (w :: items) (by simp)
    rw [writtenItems, List.append_assoc, build_written _ _ v]
    simp only [List.cons_append, build, hrest]
    simp [draftedItems]

/-- The tokens of fields build the rest of an object. -/
lemma build_writtenFields (stack : List Frame) (before : List (Option String × Draft))
    (rest : List Token) : ∀ fields : List (String × Json), fields ≠ [] →
      build stack (.name before) (writtenFields fields ++ .closeObject :: rest) =
        build stack (.after (.object (before.reverse ++ draftedFields fields) .closed)) rest
  | [], h => absurd rfl h
  | [(key, v)], _ => by
    rw [writtenFields]
    simp only [List.cons_append, build, build_written _ _ v]
    simp [draftedFields]
  | (key, v) :: field :: fields, _ => by
    have hrest := build_writtenFields stack ((some key, v.drafted) :: before) rest
      (field :: fields) (by simp)
    rw [writtenFields]
    simp only [List.cons_append, List.append_assoc, build, build_written _ _ v, hrest]
    simp [draftedFields]

end

/-! ## From a draft to a value -/

mutual

/-- The draft of a value reads as what is kept of the value. -/
lemma tree_drafted {depth : Nat} : ∀ {v : Json}, v.IsReadable depth →
    tree depth v.drafted = .ok v.kept
  | .null, _ => rfl
  | .bool _, _ => rfl
  | .int _, _ => rfl
  | .float _, hv => hv.elim
  | .string _, _ => rfl
  | .array items, hv => by
    cases depth with
    | zero => exact hv.elim
    | succ depth =>
      have hitems : treeItems depth (draftedItems items) = .ok (keptItems items) :=
        treeItems_draftedItems hv
      simp only [drafted, tree, hitems, kept]
      rfl
  | .object fields, hv => by
    cases depth with
    | zero => exact hv.elim
    | succ depth =>
      have hfields : treeFields depth ∅ (draftedFields fields) = .ok (keptFields ∅ fields) :=
        treeFields_draftedFields ∅ hv
      simp only [drafted, tree, hfields, kept]
      rfl

lemma treeItems_draftedItems {depth : Nat} : ∀ {items : List Json}, AreReadable depth items →
    treeItems depth (draftedItems items) = .ok (keptItems items)
  | [], _ => rfl
  | v :: items, hv => by
    simp only [draftedItems, treeItems, tree_drafted hv.1, treeItems_draftedItems hv.2, keptItems]
    rfl

lemma treeFields_draftedFields {depth : Nat} (before : Table Json) :
    ∀ {fields : List (String × Json)}, FieldsAreReadable depth fields →
      treeFields depth before (draftedFields fields) = .ok (keptFields before fields)
  | [], _ => rfl
  | (key, v) :: fields, hv => by
    have hrest := treeFields_draftedFields (before.insert key v.kept) hv.2
    simp only [draftedFields, treeFields, tree_drafted hv.1, keptFields, ← hrest]
    rfl

end

end Draft

/-- The draft of the text of a value. -/
lemma Draft.ofChars_chars {v : Json} (h : v.IsReadable defaultDepth) :
    ofChars v.chars = { draft := v.drafted } := by
  have hbuild := build_written [] [] v
  rw [List.append_nil] at hbuild
  rw [ofChars, tokens_chars h, hbuild]
  rfl

/-- A value reads back from its text. -/
theorem parse_compact {v : Json} (h : v.IsReadable defaultDepth) :
    parse v.compact = .ok v.kept := by
  rw [parse, compact, String.toList_ofList, readChars, Draft.ofChars_chars h]
  simp only [Draft.tree_drafted h]
  rfl

end Json

end BackupMonitor
