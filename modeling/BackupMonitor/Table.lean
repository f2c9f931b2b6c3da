/-!
# Tables keyed by name

A `Table α` is a finite map from names to values. Its entries are kept in strictly ascending
order of the names, by code point, so that

* a table is determined by what it holds: two tables that answer every look-up alike are equal
  (`Table.ext_get?`);
* the order in which entries are listed never depends on the order in which they were put in.

Every operation is described by one equation on `get?`.
-/

namespace BackupMonitor

/-- A finite map from names to values, with its entries in ascending order of the names. -/
@[ext] structure Table (α : Type) where
  /-- The entries, in ascending order of the names. -/
  entries : List (String × α) := []
  /-- No name occurs twice, and names ascend. -/
  ascending : entries.Pairwise (fun a b => a.1 < b.1) := by simp

namespace Table

variable {α β : Type}

instance : EmptyCollection (Table α) := ⟨{}⟩

instance : Inhabited (Table α) := ⟨∅⟩

instance [DecidableEq α] : DecidableEq (Table α) := fun s t =>
  decidable_of_iff (s.entries = t.entries) Table.ext_iff.symm

/-- The first value stored under `name` in a list of entries. -/
def lookup (name : String) : List (String × α) → Option α
  | [] => none
  | (key, value) :: rest => if name = key then some value else lookup name rest

/-- The value stored under `name`. -/
def get? (t : Table α) (name : String) : Option α :=
  lookup name t.entries

/-- Whether `name` has an entry. -/
def contains (t : Table α) (name : String) : Bool :=
  (t.get? name).isSome

/-- The names that have an entry, in ascending order. -/
def names (t : Table α) : List String :=
  t.entries.map (·.1)

/-- The number of entries. -/
def size (t : Table α) : Nat :=
  t.entries.length

/-- Whether there is no entry. -/
def isEmpty (t : Table α) : Bool :=
  t.entries.isEmpty

/-- Puts an entry at its place in an ascending list, over an entry of the same name. -/
def insertEntry (name : String) (value : α) : List (String × α) → List (String × α)
  | [] => [(name, value)]
  | (key, old) :: rest =>
    if name < key then (name, value) :: (key, old) :: rest
    else if name = key then (name, value) :: rest
    else (key, old) :: insertEntry name value rest

theorem mem_insertEntry {name : String} {value : α} {entries : List (String × α)}
    {e : String × α} (h : e ∈ insertEntry name value entries) :
    e = (name, value) ∨ e ∈ entries := by
  induction entries with
  | nil => simpa [insertEntry] using h
  | cons head rest ih =>
    obtain ⟨key, old⟩ := head
    simp only [insertEntry] at h
    split at h
    · simpa using h
    · split at h
      · simp only [List.mem_cons] at h ⊢
        exact h.imp_right Or.inr
      · simp only [List.mem_cons] at h ⊢
        rcases h with h | h
        · exact Or.inr (Or.inl h)
        · exact (ih h).imp_right Or.inr

/-- Two names of which neither comes first are the same name. -/
theorem name_eq_of_not_lt {a b : String} (hab : ¬ a < b) (hba : ¬ b < a) : a = b :=
  String.le_antisymm (String.not_lt.mp hba) (String.not_lt.mp hab)

theorem insertEntry_ascending (name : String) (value : α) {entries : List (String × α)}
    (h : entries.Pairwise (fun a b => a.1 < b.1)) :
    (insertEntry name value entries).Pairwise (fun a b => a.1 < b.1) := by
  induction entries with
  | nil => simp [insertEntry]
  | cons head rest ih =>
    obtain ⟨key, old⟩ := head
    obtain ⟨hhead, hrest⟩ := List.pairwise_cons.mp h
    simp only [insertEntry]
    split
    next hlt =>
      refine List.pairwise_cons.mpr ⟨fun e he => ?_, h⟩
      rcases List.mem_cons.mp he with rfl | he
      · exact hlt
      · exact String.lt_trans hlt (hhead e he)
    next hnlt =>
      split
      next heq => exact List.pairwise_cons.mpr ⟨fun e he => heq ▸ hhead e he, hrest⟩
      next hne =>
        refine List.pairwise_cons.mpr ⟨fun e he => ?_, ih hrest⟩
        rcases mem_insertEntry he with rfl | he
        · exact Decidable.byContradiction fun hn => hne (name_eq_of_not_lt hnlt hn)
        · exact hhead e he

/-- Stores `value` under `name`, over what was stored there. -/
def insert (t : Table α) (name : String) (value : α) : Table α where
  entries := insertEntry name value t.entries
  ascending := insertEntry_ascending name value t.ascending

/-- Drops the entry of `name`, if there is one. -/
def erase (t : Table α) (name : String) : Table α where
  entries := t.entries.filter (fun e => e.1 != name)
  ascending := t.ascending.filter _

/-- The table that holds `value` under `name` and nothing else. -/
def singleton (name : String) (value : α) : Table α :=
  (∅ : Table α).insert name value

/-- Builds a table from entries in any order; of two entries of one name the later wins. -/
def ofList (entries : List (String × α)) : Table α :=
  entries.foldl (fun t e => t.insert e.1 e.2) ∅

/-! ## Look-up after each operation -/

@[simp] theorem get?_empty (name : String) : (∅ : Table α).get? name = none := rfl

@[simp] theorem contains_eq_isSome (t : Table α) (name : String) :
    t.contains name = (t.get? name).isSome := rfl

theorem lookup_insertEntry (name other : String) (value : α) (entries : List (String × α)) :
    lookup other (insertEntry name value entries) =
      if other = name then some value else lookup other entries := by
  induction entries with
  | nil => simp [insertEntry, lookup]
  | cons head rest ih =>
    obtain ⟨key, old⟩ := head
    simp only [insertEntry]
    split
    next => simp [lookup]
    next =>
      split
      next heq => subst heq; by_cases h : other = name <;> simp [lookup, h]
      next hne =>
        by_cases hk : other = key
        · have hkn : key ≠ name := fun h => hne h.symm
          simp [lookup, hk, hkn]
        · simp [lookup, hk, ih]

@[simp] theorem get?_insert (t : Table α) (name other : String) (value : α) :
    (t.insert name value).get? other = if other = name then some value else t.get? other :=
  lookup_insertEntry name other value t.entries

theorem lookup_filter_ne (name other : String) (entries : List (String × α)) :
    lookup other (entries.filter (fun e => e.1 != name)) =
      if other = name then none else lookup other entries := by
  induction entries with
  | nil => simp [lookup]
  | cons head rest ih =>
    obtain ⟨key, old⟩ := head
    by_cases hk : key = name
    · by_cases ho : other = name
      · subst ho
        simpa [hk] using ih
      · simp [hk, ho, ih, lookup]
    · by_cases ho : other = name
      · have hn : name ≠ key := fun h => hk h.symm
        simp only [ho, if_true] at ih
        simp [hk, ho, ih, lookup, hn]
      · by_cases hok : other = key <;> simp [hk, ho, hok, ih, lookup]

@[simp] theorem get?_erase (t : Table α) (name other : String) :
    (t.erase name).get? other = if other = name then none else t.get? other :=
  lookup_filter_ne name other t.entries

/-! ## A table is what it holds -/

theorem lookup_eq_some_iff {entries : List (String × α)}
    (h : entries.Pairwise (fun a b => a.1 < b.1)) {name : String} {value : α} :
    lookup name entries = some value ↔ (name, value) ∈ entries := by
  induction entries with
  | nil => simp [lookup]
  | cons head rest ih =>
    obtain ⟨key, old⟩ := head
    obtain ⟨hhead, hrest⟩ := List.pairwise_cons.mp h
    by_cases hk : name = key
    · subst hk
      have hfresh : (name, value) ∉ rest := fun hm =>
        absurd (hhead (name, value) hm) (String.lt_irrefl name)
      simp [lookup, hfresh, eq_comm]
    · simp [lookup, hk, ih hrest]

theorem get?_eq_some_iff {t : Table α} {name : String} {value : α} :
    t.get? name = some value ↔ (name, value) ∈ t.entries :=
  lookup_eq_some_iff t.ascending

theorem isSome_get?_iff {t : Table α} {name : String} :
    (t.get? name).isSome = true ↔ name ∈ t.names := by
  simp [Option.isSome_iff_exists, get?_eq_some_iff, names]

/-- The names of a table ascend strictly. -/
theorem names_ascending (t : Table α) : t.names.Pairwise (· < ·) :=
  List.pairwise_map.mpr t.ascending

@[simp] theorem length_names (t : Table α) : t.names.length = t.size := by
  simp [names, size]

/-- Two ascending lists with the same members are the same list. -/
theorem eq_of_ascending_of_mem_iff {xs ys : List (String × α)}
    (hx : xs.Pairwise (fun a b => a.1 < b.1)) (hy : ys.Pairwise (fun a b => a.1 < b.1))
    (h : ∀ e, e ∈ xs ↔ e ∈ ys) : xs = ys := by
  induction xs generalizing ys with
  | nil =>
    cases ys with
    | nil => rfl
    | cons y ys => exact absurd ((h y).mpr (by simp)) (by simp)
  | cons x xs ih =>
    cases ys with
    | nil => exact absurd ((h x).mp (by simp)) (by simp)
    | cons y ys =>
      obtain ⟨hx1, hx2⟩ := List.pairwise_cons.mp hx
      obtain ⟨hy1, hy2⟩ := List.pairwise_cons.mp hy
      have hxy : x = y := by
        rcases List.mem_cons.mp ((h x).mp (by simp)) with hm | hm
        · exact hm
        · rcases List.mem_cons.mp ((h y).mpr (by simp)) with hm' | hm'
          · exact hm'.symm
          · exact absurd (hy1 _ hm) (String.lt_asymm (hx1 _ hm'))
      subst hxy
      congr 1
      refine ih hx2 hy2 fun e => ⟨fun he => ?_, fun he => ?_⟩
      · rcases List.mem_cons.mp ((h e).mp (List.mem_cons_of_mem _ he)) with rfl | he'
        · exact absurd (hx1 _ he) (String.lt_irrefl _)
        · exact he'
      · rcases List.mem_cons.mp ((h e).mpr (List.mem_cons_of_mem _ he)) with rfl | he'
        · exact absurd (hy1 _ he) (String.lt_irrefl _)
        · exact he'

/-- Two tables that answer every look-up alike are equal. -/
theorem ext_get? {s t : Table α} (h : ∀ name, s.get? name = t.get? name) : s = t := by
  apply Table.ext
  refine eq_of_ascending_of_mem_iff s.ascending t.ascending fun e => ?_
  rw [← get?_eq_some_iff (t := s), ← get?_eq_some_iff (t := t), h]

end Table

end BackupMonitor
