import BackupMonitor.Api.Client
import BackupMonitor.Proofs.JsonText

/-!
# The version in an answer to a list

The body of an answer to a list is an object with metadata, and the metadata may hold a version.
`Api.Answer.version?` finds it in the draft of the body, whatever else the body holds. A list that
succeeds goes on from there (`Api.cursor_of_listResult`): its cursor is that version, or the one
that stands for any version.
-/

namespace BackupMonitor

open Json (Draft Fault Shape)

namespace Json.Draft

/-- What fields hold last under a name; `before` if they hold nothing there. -/
def lastFrom (name : String) (before : Option Draft) : List (Option String × Draft) → Option Draft
  | [] => before
  | (key, value) :: fields => lastFrom name (if key = some name then some value else before) fields

/-- What an object holds last under a name. -/
def last? (name : String) : Draft → Option Draft
  | .object fields _ => lastFrom name none fields
  | _ => none

/-- The text that a draft is. -/
def asText? : Draft → Option String
  | .text s => s
  | _ => none

end Json.Draft

namespace Api

/-- The version in the metadata of the object that an answer holds. -/
def Answer.version? : Answer → Option String
  | .answered _ body _ =>
    ((Draft.ofChars body).draft.last? "metadata").bind fun metadata =>
      (metadata.last? "resourceVersion").bind (·.asText?)
  | .unanswered _ => none

/-! ## Texts in a record -/

/-- The text that a table holds under a name. -/
def textIn? (values : Table Json) (name : String) : Option String :=
  match values.get? name with
  | some (.string s) => some s
  | _ => none

lemma findField_eq_lookup (name : String) (fields : List (String × Json)) :
    Json.findField name fields = Table.lookup name fields := by
  induction fields with
  | nil => rfl
  | cons field fields ih =>
    obtain ⟨key, v⟩ := field
    simp only [Json.findField, Table.lookup, ih]

lemma text?_object (values : Table Json) (name : String) :
    text? (.object values.entries) name = textIn? values name := by
  simp only [text?, textIn?, Json.getD, Json.get?, Table.get?, findField_eq_lookup]
  cases Table.lookup name values.entries with
  | none => rfl
  | some v => cases v <;> rfl

/-- What is read as a text is the text that stands there. -/
lemma exists_of_read_text {fits : String → Bool} {depth : Nat} {draft : Draft} {v : Json}
    (h : Shape.read (.text fits) depth draft = .ok v) :
    ∃ s, draft = .text (some s) ∧ v = .string s := by
  cases draft with
  | text s =>
    cases s with
    | none => simp [Shape.read, Shape.readSimple] at h
    | some s =>
      simp only [Shape.read, Shape.readSimple] at h
      split at h
      · exact ⟨s, rfl, (Except.ok.inj h).symm⟩
      · cases h
  | _ => simp [Shape.read, Shape.readSimple] at h

lemma textIn?_insert_self (values : Table Json) (name : String) (v : Json) :
    textIn? (values.insert name v) name = (match v with | .string s => some s | _ => none) := by
  unfold textIn?
  rw [Table.get?_insert, if_pos rfl]
  cases v <;> rfl

lemma textIn?_insert_of_ne (values : Table Json) {name key : String} (v : Json)
    (h : key ≠ name) : textIn? (values.insert key v) name = textIn? values name := by
  unfold textIn?
  rw [Table.get?_insert, if_neg (Ne.symm h)]

/-- The fields of a record hold the text that stands last under a name. -/
lemma textIn?_of_readFields {shapes : List (String × Shape)} {name : String} {fits : String → Bool}
    (hshape : Table.lookup name shapes = some (.text fits)) {depth : Nat}
    {fields : List (Option String × Draft)} {before after : Table Json} {found : Option Draft}
    (hbefore : textIn? before name = found.bind (·.asText?))
    (h : Shape.readFields shapes depth before fields = .ok after) :
    textIn? after name = (Draft.lastFrom name found fields).bind (·.asText?) := by
  induction fields generalizing before found with
  | nil =>
    obtain rfl := Except.ok.inj h
    exact hbefore
  | cons field fields ih =>
    -- what has been found so far goes along with what has been read so far
    obtain ⟨key, draft⟩ := field
    cases key with
    | none => cases h
    | some key =>
      simp only [Shape.readFields] at h
      rw [Draft.lastFrom]
      by_cases hkey : key = name
      · -- the text under the name is put over what was there
        subst hkey
        rw [hshape] at h
        rw [if_pos rfl]
        simp only [Shape.isNullable, Bool.true_and] at h
        split at h
        next hnull =>
          refine ih ?_ h
          rw [textIn?_insert_self]
          cases draft with
          | word v => rfl
          | _ => cases hnull
        next =>
          obtain ⟨v, hread, h⟩ := Except.bind_eq_ok_iff.mp h
          obtain ⟨s, rfl, rfl⟩ := exists_of_read_text hread
          exact ih (textIn?_insert_self ..) h
      · -- any other field leaves it alone
        rw [if_neg (fun heq => hkey (Option.some.inj heq))]
        split at h
        next =>
          obtain ⟨-, -, h⟩ := Except.bind_eq_ok_iff.mp h
          exact ih hbefore h
        next =>
          split at h
          next => exact ih ((textIn?_insert_of_ne _ _ hkey).trans hbefore) h
          next =>
            obtain ⟨v, -, h⟩ := Except.bind_eq_ok_iff.mp h
            exact ih ((textIn?_insert_of_ne _ _ hkey).trans hbefore) h

/-- The version in metadata that has been read. -/
lemma text?_of_readMetadata {depth : Nat} {draft : Draft} {metadata : Json}
    (h : listMetadataShape.read depth draft = .ok metadata) :
    text? metadata "resourceVersion" = (draft.last? "resourceVersion").bind (·.asText?) := by
  unfold listMetadataShape at h
  cases draft with
  | object fields ending =>
    cases depth with
    | zero => simp [Shape.read, Shape.readSimple] at h
    | succ depth =>
      simp only [Shape.read] at h
      obtain ⟨values, hfields, h⟩ := Except.bind_eq_ok_iff.mp h
      obtain ⟨-, -, h⟩ := Except.bind_eq_ok_iff.mp h
      obtain rfl := Except.ok.inj h
      rw [text?_object]
      exact textIn?_of_readFields rfl rfl hfields
  | _ => simp [Shape.read, Shape.readSimple] at h

/-! ## The listing -/

/-- What has been read of a list has the version of the metadata that stand last. -/
lemma metadata_of_readFields {depth : Nat} {fields : List (Option String × Draft)}
    {before after : ListingParts} {found : Option Draft}
    (hbefore : before.metadata.bind (text? · "resourceVersion") =
      found.bind fun metadata => (metadata.last? "resourceVersion").bind (·.asText?))
    (h : fields.foldlM (ListingParts.readField depth) before = .ok after) :
    after.metadata.bind (text? · "resourceVersion") =
      (Draft.lastFrom "metadata" found fields).bind fun metadata =>
        (metadata.last? "resourceVersion").bind (·.asText?) := by
  induction fields generalizing before found with
  | nil =>
    obtain rfl := Except.ok.inj h
    exact hbefore
  | cons field fields ih =>
    -- only metadata bring a version, and later ones take the place of earlier ones
    obtain ⟨key, draft⟩ := field
    rw [List.foldlM_cons] at h
    obtain ⟨parts, hpart, h⟩ := Except.bind_eq_ok_iff.mp h
    rw [Draft.lastFrom]
    refine ih ?_ h
    cases key with
    | none => cases hpart
    | some key =>
      simp only [ListingParts.readField] at hpart
      split at hpart
      next hkey =>
        subst hkey
        rw [if_pos rfl]
        split at hpart
        next => cases hpart
        next =>
          obtain ⟨metadata, hread, hpart⟩ := Except.bind_eq_ok_iff.mp hpart
          obtain rfl := Except.ok.inj hpart
          exact text?_of_readMetadata hread
      next hkey =>
        rw [if_neg (fun heq => hkey (Option.some.inj heq))]
        split at hpart
        next =>
          split at hpart
          next => cases hpart
          next =>
            obtain ⟨items, -, hpart⟩ := Except.bind_eq_ok_iff.mp hpart
            obtain rfl := Except.ok.inj hpart
            exact hbefore
        next =>
          obtain ⟨-, -, hpart⟩ := Except.bind_eq_ok_iff.mp hpart
          obtain rfl := Except.ok.inj hpart
          exact hbefore

/-- A list that has been read goes on from the version in its metadata. -/
lemma cursor_of_readListing {depth : Nat} {draft : Draft} {listing : Listing}
    (h : readListing depth draft = .ok listing) :
    listing.cursor = ((draft.last? "metadata").bind fun metadata =>
      (metadata.last? "resourceVersion").bind (·.asText?)).getD anyVersion := by
  cases draft with
  | object fields ending =>
    cases depth with
    | zero => cases h
    | succ depth =>
      simp only [readListing] at h
      obtain ⟨parts, hparts, h⟩ := Except.bind_eq_ok_iff.mp h
      obtain ⟨-, -, h⟩ := Except.bind_eq_ok_iff.mp h
      split at h
      next => cases h
      next items hitems =>
        obtain rfl := Except.ok.inj h
        exact congrArg (Option.getD · anyVersion) (metadata_of_readFields rfl hparts)
  | _ => cases h

/-- Only an answer that is no error and did not break off has a body. -/
lemma Answer.exists_of_body {answer : Answer} {body : List Char} (h : answer.body = .ok body) :
    ∃ status, answer = .answered status body false := by
  cases answer with
  | unanswered cause => cases h
  | answered status chars broken =>
    cases broken with
    | true => cases h
    | false =>
      simp only [Answer.body, Bool.false_eq_true, if_false] at h
      split at h
      next => cases h
      next => exact ⟨status, by rw [Except.ok.inj h]⟩

/-- What is made of an answer is read from the draft of its body. -/
lemma Answer.exists_of_decode {α : Type} {answer : Answer} {what : String}
    {reader : Nat → Draft → Except Fault α} {a : α} (h : answer.decode what reader = .ok a) :
    ∃ status body, answer = .answered status body false ∧
      reader Json.defaultDepth (Draft.ofChars body).draft = .ok a := by
  unfold Answer.decode at h
  split at h
  next => cases h
  next body hbody =>
    obtain ⟨status, rfl⟩ := Answer.exists_of_body hbody
    refine ⟨status, body, rfl, ?_⟩
    split at h
    next a' hread =>
      obtain rfl := Except.ok.inj h
      obtain ⟨value, hvalue, hread⟩ := Except.bind_eq_ok_iff.mp hread
      split at hread
      next => cases hread
      next => rwa [← Except.ok.inj hread]
    next => cases h

/-- A list that succeeds goes on from the version in the answer. -/
theorem cursor_of_listResult {kind : ResourceKind} {space : String} {answer : Answer}
    {listing : Listing} (h : listResult kind space answer = .ok listing) :
    listing.cursor = answer.version?.getD anyVersion := by
  unfold listResult at h
  split at h
  next => cases h
  next =>
    obtain ⟨status, body, rfl, hread⟩ := Answer.exists_of_decode h
    exact cursor_of_readListing hread

end Api

end BackupMonitor
