import BackupMonitor.Api.Client
import BackupMonitor.Engine.Trace
import Mathlib.Data.List.TakeWhile
import Mathlib.Tactic.Lemma

/-!
# What a request says of its call

The requests for lists and watches hold the kind and the namespace in their path, and a watch holds
its cursor as the last thing in its query. A form can be read back (`Api.formBytes_formText`) and
has neither an equals sign nor a question mark in it, so nothing of that is lost: two calls that
send the same request are the same call (`Call.eq_of_request?`). A number sign in the name of a
namespace would cut off what comes after it, and is left out here.
-/

namespace BackupMonitor

namespace Api

/-! ## Forms -/

/-- Reads a form back, byte by byte. -/
def formBytes : List Char → List Nat
  | '+' :: rest => 32 :: formBytes rest
  | '%' :: high :: low :: rest =>
    ((Json.hexValue? high).getD 0 * 16 + (Json.hexValue? low).getD 0) :: formBytes rest
  | c :: rest => c.toNat :: formBytes rest
  | [] => []

/-- An upper-case digit has the value of the lower-case one. -/
lemma hexValue?_upperHex {n : Nat} (h : n < 16) : Json.hexValue? (upperHex n) = some n := by
  have hall : ∀ n < 16, Json.hexValue? (upperHex n) = some n := by decide
  exact hall n h

/-- A byte that stands for itself is a character of its own, and none that stands for another. -/
lemma plainByte {b : Nat} (h : isPlainByte b = true) :
    (Char.ofNat b).toNat = b ∧ Char.ofNat b ∉ ['+', '%', '=', '?', '#'] := by
  have hbound : b < 123 := by
    simp only [isPlainByte, Bool.or_eq_true, Bool.and_eq_true, decide_eq_true_eq,
      beq_iff_eq] at h
    omega
  have hall : ∀ b < 123, isPlainByte b = true →
      (Char.ofNat b).toNat = b ∧ Char.ofNat b ∉ ['+', '%', '=', '?', '#'] := by decide
  exact hall b hbound h

lemma formBytes_formByte_append {b : Nat} (h : b < 256) (rest : List Char) :
    formBytes (formByte b ++ rest) = b :: formBytes rest := by
  unfold formByte
  split
  next hplain =>
    obtain ⟨hvalue, hother⟩ := plainByte hplain
    simp only [List.mem_cons, not_or] at hother
    rw [List.singleton_append, formBytes, hvalue]
    · exact fun hplus => hother.1 hplus
    · exact fun high low more hpercent _ => hother.2.1 hpercent
  next =>
    split
    next hspace =>
      subst hspace
      rfl
    next =>
      show ((Json.hexValue? (upperHex (b / 16))).getD 0 * 16 +
        (Json.hexValue? (upperHex (b % 16))).getD 0) :: formBytes rest = b :: formBytes rest
      rw [hexValue?_upperHex (by omega), hexValue?_upperHex (by omega)]
      simp only [Option.getD_some]
      rw [Nat.div_add_mod']

/-- The form of a text can be read back. -/
lemma formBytes_formText (s : String) :
    formBytes (formText s).toList = s.toUTF8.toList.map (·.toNat) := by
  unfold formText
  rw [String.toList_ofList]
  induction s.toUTF8.toList with
  | nil => rfl
  | cons b bytes ih =>
    rw [List.flatMap_cons, formBytes_formByte_append b.toNat_lt, ih, List.map_cons]

/-- The bytes of an array from a place on, as its list is built up. -/
lemma toList_loop (bs : ByteArray) (i : Nat) (taken : List UInt8) :
    ByteArray.toList.loop bs i taken = taken.reverse ++ bs.data.toList.drop i := by
  fun_induction ByteArray.toList.loop bs i taken with
  | case1 i taken h ih =>
    have hi : i < bs.data.toList.length := by simpa using h
    rw [ih, List.reverse_cons, List.append_assoc, List.drop_eq_getElem_cons hi]
    simp [ByteArray.get!, h]
  | case2 i taken h =>
    rw [List.drop_eq_nil_of_le (by simpa using h), List.append_nil]

/-- Different texts have different forms. -/
theorem formText_injective : Function.Injective formText := by
  intro s t h
  have hbytes : s.toUTF8.toList.map (·.toNat) = t.toUTF8.toList.map (·.toNat) := by
    rw [← formBytes_formText, ← formBytes_formText, h]
  have hlist : s.toUTF8.toList = t.toUTF8.toList :=
    (List.map_inj_right fun _ _ => UInt8.toNat_inj.mp).mp hbytes
  unfold ByteArray.toList at hlist
  rw [toList_loop, toList_loop] at hlist
  exact String.toByteArray_inj.mp (ByteArray.ext (Array.toList_inj.mp hlist))

/-- A form has none of the characters that a target is cut at. -/
lemma not_mem_formText (s : String) {c : Char} (hc : c = '=' ∨ c = '?' ∨ c = '#') :
    c ∉ (formText s).toList := by
  unfold formText
  rw [String.toList_ofList, List.mem_flatMap]
  rintro ⟨b, -, hmem⟩
  unfold formByte at hmem
  -- a byte stands for itself, or as a plus sign, or as a percent sign with two digits
  split at hmem
  next hplain =>
    obtain ⟨-, hother⟩ := plainByte hplain
    obtain rfl := List.mem_singleton.mp hmem
    rcases hc with hc | hc | hc <;> simp [hc] at hother
  next =>
    split at hmem
    next =>
      obtain rfl := List.mem_singleton.mp hmem
      revert hc
      decide
    next =>
      have hdigits : ∀ n < 16, upperHex n ∉ ['=', '?', '#'] := by decide
      have hhigh := hdigits (b.toNat / 16) (by have := b.toNat_lt; omega)
      have hlow := hdigits (b.toNat % 16) (by omega)
      simp only [List.mem_cons, List.not_mem_nil, or_false] at hmem hhigh hlow
      rcases hmem with rfl | rfl | rfl
      · revert hc
        decide
      · exact hhigh hc
      · exact hlow hc

/-! ## Targets -/

/-- A target without a number sign is sent as it is, if it can be sent and is not too long. -/
lemma request?_eq_some_iff {target request : String} (hsharp : '#' ∉ target.toList) :
    request? target = some request ↔ target.utf8ByteSize ≤ maxTargetSize ∧
      isSendable target.toList = true ∧ request = "GET " ++ target := by
  have hsent : target.toList.takeWhile (· != '#') = target.toList :=
    List.takeWhile_eq_self_iff.mpr fun c hc => by
      simpa using fun heq : c = '#' => hsharp (heq ▸ hc)
  simp only [request?, hsent, String.ofList_toList, Option.ite_none_right_eq_some,
    Bool.and_eq_true, decide_eq_true_eq, Option.some_inj, and_assoc, eq_comm (a := request)]

/-- The target for the resources of a kind in a namespace, written out. -/
lemma toList_resourceTarget (kind : ResourceKind) (space : String) :
    (resourceTarget kind space).toList =
      "/apis/postgresql.cnpg.io/v1/namespaces/".toList ++ space.toList ++
        '/' :: (kind.plural ++ "?").toList := by
  have hplural : kind.apiResource.plural = kind.plural := by cases kind <;> decide
  have hversion : kind.apiResource.apiVersion = "postgresql.cnpg.io/v1" := by cases kind <;> rfl
  unfold resourceTarget
  rw [hplural, hversion]
  simp

/-- Only the namespace can bring a number sign into a target. -/
lemma not_mem_resourceTarget {kind : ResourceKind} {space : String} (h : '#' ∉ space.toList) :
    '#' ∉ (resourceTarget kind space).toList := by
  have hplural : '#' ∉ '/' :: (kind.plural ++ "?").toList := by cases kind <;> decide
  rw [toList_resourceTarget, List.mem_append, List.mem_append, not_or, not_or]
  exact ⟨⟨by decide, h⟩, hplural⟩

/-- What a watch from a cursor adds to the target of a list. -/
def watchQuery (cursor : String) : String :=
  "&watch=true&timeoutSeconds=290&allowWatchBookmarks=true&resourceVersion=" ++ formText cursor

lemma watchRequest?_eq (kind : ResourceKind) (space cursor : String) :
    watchRequest? kind space cursor =
      request? (resourceTarget kind space ++ watchQuery cursor) := by
  have hseconds : toString watchSeconds = "290" := rfl
  unfold watchRequest? watchQuery
  rw [hseconds]
  simp only [String.append_assoc]
  rfl

/-- There is no number sign in the target of a watch either. -/
lemma not_mem_watchTarget {kind : ResourceKind} {space : String} (h : '#' ∉ space.toList)
    (cursor : String) : '#' ∉ (resourceTarget kind space ++ watchQuery cursor).toList := by
  unfold watchQuery
  rw [String.toList_append, String.toList_append, List.mem_append, List.mem_append, not_or, not_or]
  exact ⟨not_mem_resourceTarget h, by decide, not_mem_formText cursor (.inr (.inr rfl))⟩

/-- The beginning of a target that can be sent can be sent. -/
lemma isSendable_of_append {target more : List Char} (h : isSendable (target ++ more) = true) :
    isSendable target = true := by
  simp only [isSendable, Bool.and_eq_true, List.takeWhile_append, List.dropWhile_append] at h ⊢
  obtain ⟨hpath, hquery⟩ := h
  constructor
  -- the path ends within the beginning, or goes on after it
  · split at hpath
    next hall =>
      rw [List.all_append, Bool.and_eq_true] at hpath
      exact List.all_eq_true.mpr fun c hc =>
        List.all_eq_true.mp hpath.1 c ((List.takeWhile_prefix _).subset hc)
    next => exact hpath
  · split at hquery
    next hnone => rw [List.isEmpty_iff.mp hnone, List.all_nil]
    next =>
      rw [List.all_append, Bool.and_eq_true] at hquery
      exact hquery.1

/-- A watch asks at the target of the list, and says the rest in the query. -/
theorem watchRequest?_eq_some {kind : ResourceKind} {space cursor request : String}
    (hsharp : '#' ∉ space.toList) (h : watchRequest? kind space cursor = some request) :
    ∃ list, listRequest? kind space = some list ∧ request = list ++ watchQuery cursor := by
  rw [watchRequest?_eq] at h
  obtain ⟨hsize, hsendable, rfl⟩ :=
    (request?_eq_some_iff (not_mem_watchTarget hsharp cursor)).mp h
  rw [String.utf8ByteSize_append] at hsize
  rw [String.toList_append] at hsendable
  refine ⟨"GET " ++ resourceTarget kind space, ?_, (String.append_assoc ..).symm⟩
  exact (request?_eq_some_iff (not_mem_resourceTarget hsharp)).mpr
    ⟨by omega, isSendable_of_append hsendable, rfl⟩

/-! ## What a target holds -/

/-- A list is cut at its last character of a sort in one way only. -/
lemma append_cons_inj {α : Type} {a b x y : List α} {c : α} (hx : c ∉ x) (hy : c ∉ y)
    (h : a ++ c :: x = b ++ c :: y) : a = b ∧ x = y := by
  rcases List.append_eq_append_iff.mp h with ⟨m, rfl, hm⟩ | ⟨m, rfl, hm⟩
  · cases m with
    | nil => exact ⟨(List.append_nil a).symm, (List.cons.inj hm).2⟩
    | cons d m => exact absurd ((List.cons.inj hm).2 ▸ by simp) hx
  · cases m with
    | nil => exact ⟨List.append_nil b, (List.cons.inj hm).2.symm⟩
    | cons d m => exact absurd ((List.cons.inj hm).2 ▸ by simp) hy

/-- The kind and the namespace can be told from the target of a list. -/
lemma resourceTarget_inj {kind kind' : ResourceKind} {space space' : String}
    (h : resourceTarget kind space = resourceTarget kind' space') :
    kind = kind' ∧ space = space' := by
  have hslash (kind : ResourceKind) : '/' ∉ (kind.plural ++ "?").toList := by
    cases kind <;> decide
  have hchars := congrArg String.toList h
  rw [toList_resourceTarget, toList_resourceTarget] at hchars
  obtain ⟨hspace, hkind⟩ := append_cons_inj (hslash kind) (hslash kind') hchars
  refine ⟨?_, String.toList_inj.mp (List.append_cancel_left hspace)⟩
  revert hkind
  cases kind <;> cases kind' <;> decide

/-- The target of a watch, cut at its last equals sign. -/
lemma toList_watchTarget (target cursor : String) : (target ++ watchQuery cursor).toList =
    target.toList ++
      "&watch=true&timeoutSeconds=290&allowWatchBookmarks=true&resourceVersion".toList ++
      '=' :: (formText cursor).toList := by
  have hquery : "&watch=true&timeoutSeconds=290&allowWatchBookmarks=true&resourceVersion=".toList =
      "&watch=true&timeoutSeconds=290&allowWatchBookmarks=true&resourceVersion".toList ++
        ['='] := by
    decide
  unfold watchQuery
  rw [String.toList_append, String.toList_append, hquery]
  simp only [List.append_assoc, List.cons_append, List.nil_append]

/-- The kind, the namespace and the cursor can be told from the target of a watch. -/
lemma watchTarget_inj {kind kind' : ResourceKind} {space space' cursor cursor' : String}
    (h : resourceTarget kind space ++ watchQuery cursor =
      resourceTarget kind' space' ++ watchQuery cursor') :
    kind = kind' ∧ space = space' ∧ cursor = cursor' := by
  have hchars := congrArg String.toList h
  rw [toList_watchTarget, toList_watchTarget] at hchars
  obtain ⟨htarget, hform⟩ := append_cons_inj (not_mem_formText cursor (.inl rfl))
    (not_mem_formText cursor' (.inl rfl)) hchars
  obtain ⟨hkind, hspace⟩ :=
    resourceTarget_inj (String.toList_inj.mp (List.append_cancel_right htarget))
  exact ⟨hkind, hspace, formText_injective (String.toList_inj.mp hform)⟩

/-- No target is that of a list and of a watch: one ends with a question mark, and the other has
none that late. -/
lemma resourceTarget_ne_watchTarget (kind kind' : ResourceKind) (space space' cursor : String) :
    resourceTarget kind space ≠ resourceTarget kind' space' ++ watchQuery cursor := by
  intro h
  have hchars := congrArg String.toList h
  have hlist : (resourceTarget kind space).toList =
      ("/apis/postgresql.cnpg.io/v1/namespaces/".toList ++ space.toList ++
        '/' :: kind.plural.toList) ++ ['?'] := by
    rw [toList_resourceTarget, String.toList_append]
    simp
  rw [hlist, toList_watchTarget] at hchars
  have hlast : '?' = ('=' :: (formText cursor).toList).getLast (List.cons_ne_nil _ _) := by
    have h := congrArg List.getLast? hchars
    rw [List.getLast?_concat, List.getLast?_append,
      List.getLast?_eq_some_getLast (List.cons_ne_nil _ _), Option.some_or] at h
    exact Option.some.inj h
  -- but after its last equals sign a watch has only the form of its cursor
  rcases List.mem_cons.mp (hlast ▸ List.getLast_mem _) with heq | hmem
  · revert heq
    decide
  · exact not_mem_formText cursor (.inr (.inl rfl)) hmem

end Api

/-! ## Calls -/

namespace Call

/-- The target that a call asks at. -/
def target (call : Call) : String :=
  match call.query with
  | .list kind => Api.resourceTarget kind call.space
  | .watch kind cursor => Api.resourceTarget kind call.space ++ Api.watchQuery cursor

/-- The request that a call makes, if it can be sent. -/
def request? (call : Call) : Option String :=
  match call.query with
  | .list kind => Api.listRequest? kind call.space
  | .watch kind cursor => Api.watchRequest? kind call.space cursor

lemma request?_eq (call : Call) : call.request? = Api.request? call.target := by
  obtain ⟨space, query⟩ := call
  cases query with
  | list kind => rfl
  | watch kind cursor => exact Api.watchRequest?_eq kind space cursor

/-- Only the namespace can bring a number sign into a target. -/
lemma not_mem_target {call : Call} (h : '#' ∉ call.space.toList) : '#' ∉ call.target.toList := by
  obtain ⟨space, query⟩ := call
  cases query with
  | list kind => exact Api.not_mem_resourceTarget h
  | watch kind cursor => exact Api.not_mem_watchTarget h cursor

/-- Different calls ask at different targets. -/
lemma target_injective : Function.Injective target := by
  rintro ⟨space, query⟩ ⟨space', query'⟩ h
  cases query with
  | list kind =>
    cases query' with
    | list kind' =>
      obtain ⟨rfl, rfl⟩ := Api.resourceTarget_inj h
      rfl
    | watch kind' cursor' => exact (Api.resourceTarget_ne_watchTarget _ _ _ _ _ h).elim
  | watch kind cursor =>
    cases query' with
    | list kind' => exact (Api.resourceTarget_ne_watchTarget _ _ _ _ _ h.symm).elim
    | watch kind' cursor' =>
      obtain ⟨rfl, rfl, rfl⟩ := Api.watchTarget_inj h
      rfl

/-- What a call is for can be told from its request. -/
theorem eq_of_request? {call call' : Call} {request : String}
    (hsharp : '#' ∉ call.space.toList) (hsharp' : '#' ∉ call'.space.toList)
    (h : call.request? = some request) (h' : call'.request? = some request) : call = call' := by
  rw [request?_eq, Api.request?_eq_some_iff (not_mem_target hsharp)] at h
  rw [request?_eq, Api.request?_eq_some_iff (not_mem_target hsharp')] at h'
  exact target_injective ((String.append_right_inj _).mp (h.2.2.symm.trans h'.2.2))

end Call

/-- In one namespace, queries for different kinds or from different cursors read differently. -/
theorem Query.text_injective (space : String) : Function.Injective (Query.text space) := by
  intro query query' h
  have hchars := congrArg String.toList h
  cases query with
  | list kind =>
    cases query' with
    | list kind' =>
      cases kind <;> cases kind' <;> first | rfl | simp [text, ResourceKind.plural] at hchars
    | watch kind' cursor' => simp [text] at hchars
  | watch kind cursor =>
    cases query' with
    | list kind' => simp [text] at hchars
    | watch kind' cursor' =>
      obtain rfl : kind = kind' := by
        cases kind <;> cases kind' <;> first | rfl | simp [text, ResourceKind.plural] at hchars
      have hcursor : cursor.toList = cursor'.toList := by simpa [text] using hchars
      rw [String.toList_inj.mp hcursor]

end BackupMonitor
