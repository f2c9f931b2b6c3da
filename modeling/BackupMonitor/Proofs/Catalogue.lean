import BackupMonitor.Proofs.RosterChange
import Mathlib.Data.List.Sort

/-!
# Which schedules exist

A `Catalogue` is what the API server holds of schedules, by name. It starts from a listing and
follows events; an event that does not fit what exists cannot be followed.

`Registry.Covers` is the invariant between the registry and the catalogue: the schedules that are
registered are those that exist and are for the cluster. `Roster.covers_enlistAll` establishes it
and `Roster.covers_consider` keeps it.
-/

namespace BackupMonitor

/-! ## Catalogues -/

/-- The schedules that exist, by name. -/
abbrev Catalogue := Table Object

namespace Catalogue

/-- Enters an object of a listing; one without a name is passed over. -/
def enter (catalogue : Catalogue) (schedule : Object) : Catalogue :=
  match schedule.name with
  | none => catalogue
  | some name => catalogue.insert name schedule

/-- The schedules of a listing. -/
def ofListing (schedules : List Object) : Catalogue :=
  schedules.foldl enter ∅

/-- The catalogue after an event. Only a schedule that does not exist can appear, and only one that
exists can change or go away; an event without a name says nothing. -/
def follow? (catalogue : Catalogue) (event : Event) : Option Catalogue :=
  match event.object.name with
  | none => some catalogue
  | some name =>
    match event.change, catalogue.contains name with
    | .added, false => some (catalogue.insert name event.object)
    | .modified, true => some (catalogue.insert name event.object)
    | .deleted, true => some (catalogue.erase name)
    | _, _ => none

/-- The catalogue after a list of events, each of which fits what exists by then. -/
def followAll? (catalogue : Catalogue) (events : List Event) : Option Catalogue :=
  events.foldlM follow? catalogue

/-- Events that can be followed can be followed up to the last, and then that one. -/
lemma followAll?_concat_eq_some {catalogue final : Catalogue} {events : List Event} {event : Event}
    (h : catalogue.followAll? (events ++ [event]) = some final) :
    ∃ mid, catalogue.followAll? events = some mid ∧ mid.follow? event = some final := by
  unfold followAll? at h
  rw [List.foldlM_append, Option.bind_eq_bind, Option.bind_eq_some_iff] at h
  obtain ⟨mid, hmid, hlast⟩ := h
  refine ⟨mid, hmid, ?_⟩
  simpa using hlast

end Catalogue

/-! ## The registry beside the catalogue -/

/-- The schedules that are registered are those that exist and are for the cluster. -/
def Registry.Covers (registry : Registry) (cluster : String) (catalogue : Catalogue) : Prop :=
  ∀ name, registry.contains name = (catalogue.get? name).any (Roster.targets cluster)

lemma Registry.covers_empty (cluster : String) : Registry.Covers ∅ cluster ∅ := fun _ => rfl

namespace Roster

/-- A schedule is for a cluster if its cluster can be read and is that one. -/
lemma targets_iff {cluster : String} {schedule : Object} :
    targets cluster schedule = true ↔ schedule.scheduleCluster = .ok (some cluster) := by
  unfold targets
  split
  next name h => simp [h]
  next h =>
    refine ⟨fun hfalse => absurd hfalse (by simp), fun hcluster => absurd hcluster (h cluster)⟩

end Roster

namespace Registry.Covers

variable {registry other : Registry} {cluster : String} {catalogue : Catalogue}

/-- The names of a registry that covers a catalogue. -/
lemma mem_names_iff (h : registry.Covers cluster catalogue) (name : String) :
    name ∈ registry.names ↔ ∃ schedule, catalogue.get? name = some schedule ∧
      schedule.scheduleCluster = .ok (some cluster) := by
  rw [← Table.isSome_get?_iff, ← Table.contains_eq_isSome, h name, Option.any_eq_true]
  simp only [Roster.targets_iff]

/-- A catalogue determines the names of the registries that cover it. -/
lemma names_eq (h : registry.Covers cluster catalogue) (h' : other.Covers cluster catalogue) :
    registry.names = other.names := by
  refine registry.names_ascending.eq_of_mem_iff other.names_ascending fun name => ?_
  rw [h.mem_names_iff, h'.mem_names_iff]

end Registry.Covers

namespace Roster

variable {r : Roster} {cluster : String} {catalogue : Catalogue}

/-! ## What the operations do to the registered names -/

lemma contains_start (r : Roster) (name other : String) :
    (r.start name).1.registry.contains other =
      (decide (other = name) || r.registry.contains other) := by
  simp only [start, Registry.startIfAbsent]
  -- a name that is registered is left alone, so that it is registered either way
  by_cases hname : r.registry.contains name
  · rw [if_pos hname]
    by_cases hother : other = name
    · simp only [hother, decide_true, Bool.true_or]
      exact hname
    · simp [hother]
  · rw [if_neg hname]
    by_cases hother : other = name
    · simp [hother]
    · simp [hother]

lemma contains_stop (r : Roster) (name reason other : String) :
    (r.stop name reason).1.registry.contains other =
      (decide (other ≠ name) && r.registry.contains other) := by
  simp only [stop, Registry.stop]
  cases htoken : r.registry.get? name with
  | none =>
    by_cases hother : other = name
    · simp [hother, htoken]
    · simp [hother]
  | some token =>
    by_cases hother : other = name
    · simp [hother]
    · simp [hother]

lemma contains_startIfTargeting (r : Roster) (cluster name : String) (schedule : Object)
    (other : String) :
    (r.startIfTargeting cluster name schedule).1.registry.contains other =
      ((decide (other = name) && targets cluster schedule) || r.registry.contains other) := by
  simp only [startIfTargeting]
  split
  next htargets => rw [contains_start, htargets, Bool.and_true]
  next htargets => simp [htargets]

/-! ## The operations keep the registry in line -/

/-- A schedule that was not there comes with its tracker. -/
lemma covers_startIfTargeting (h : r.registry.Covers cluster catalogue) {name : String}
    (hnew : catalogue.get? name = none) (schedule : Object) :
    (r.startIfTargeting cluster name schedule).1.registry.Covers cluster
      (catalogue.insert name schedule) := by
  intro other
  rw [contains_startIfTargeting, h other, Table.get?_insert]
  by_cases hother : other = name
  · simp [hother, hnew]
  · simp [hother]

/-- A schedule that changes while it is for the cluster has its tracker afterwards. -/
lemma covers_startIfTargeting_of_targets (h : r.registry.Covers cluster catalogue) (name : String)
    {schedule : Object} (htargets : targets cluster schedule = true) :
    (r.startIfTargeting cluster name schedule).1.registry.Covers cluster
      (catalogue.insert name schedule) := by
  intro other
  rw [contains_startIfTargeting, h other, Table.get?_insert]
  by_cases hother : other = name
  · simp [hother, htargets]
  · simp [hother]

/-- A schedule that is for another cluster has no tracker after it was stopped. -/
lemma covers_stop_of_not_targets (h : r.registry.Covers cluster catalogue) (name reason : String)
    {schedule : Object} (htargets : targets cluster schedule = false) :
    (r.stop name reason).1.registry.Covers cluster (catalogue.insert name schedule) := by
  intro other
  rw [contains_stop, h other, Table.get?_insert]
  by_cases hother : other = name
  · simp [hother, htargets]
  · simp [hother]

/-- A schedule that is gone has no tracker after it was stopped. -/
lemma covers_stop_erase (h : r.registry.Covers cluster catalogue) (name reason : String) :
    (r.stop name reason).1.registry.Covers cluster (catalogue.erase name) := by
  intro other
  rw [contains_stop, h other, Table.get?_erase]
  by_cases hother : other = name
  · simp [hother]
  · simp [hother]

/-- Taking in a listing of distinct names covers it on top of what was there. -/
lemma covers_enlistAll {schedules : List Object} (h : r.registry.Covers cluster catalogue)
    (hnames : (schedules.filterMap (·.name)).Nodup)
    (hnew : ∀ name ∈ schedules.filterMap (·.name), catalogue.get? name = none) :
    (r.enlistAll cluster schedules).1.registry.Covers cluster
      (schedules.foldl Catalogue.enter catalogue) := by
  induction schedules generalizing r catalogue with
  | nil => exact h
  | cons schedule rest ih =>
    rw [enlistAll_cons, List.foldl_cons]
    -- both sides pass over an object without a name
    cases hname : schedule.name with
    | none =>
      have henlist : enlist cluster r schedule = (r, []) := by simp only [enlist, hname]
      have henter : catalogue.enter schedule = catalogue := by simp only [Catalogue.enter, hname]
      rw [List.filterMap_cons_none hname] at hnames hnew
      rw [henlist, henter]
      exact ih h hnames hnew
    | some name =>
      have henlist : enlist cluster r schedule = r.startIfTargeting cluster name schedule := by
        simp only [enlist, hname]
      have henter : catalogue.enter schedule = catalogue.insert name schedule := by
        simp only [Catalogue.enter, hname]
      rw [List.filterMap_cons_some hname] at hnames hnew
      obtain ⟨hother, hrest⟩ := List.nodup_cons.mp hnames
      rw [henlist, henter]
      refine ih (covers_startIfTargeting h (hnew name List.mem_cons_self) schedule) hrest ?_
      intro other hmem
      -- the names are distinct, so the others are still new
      have hne : other ≠ name := fun heq => hother (heq ▸ hmem)
      rw [Table.get?_insert, if_neg hne]
      exact hnew other (List.mem_cons_of_mem _ hmem)

/-- Taking in an event keeps the registry in line with what exists. -/
lemma covers_consider {event : Event} {after : Catalogue}
    (h : r.registry.Covers cluster catalogue) (hafter : catalogue.follow? event = some after) :
    (r.consider cluster event).1.registry.Covers cluster after := by
  obtain ⟨change, schedule⟩ := event
  cases hname : schedule.name with
  | none =>
    simp only [Catalogue.follow?, hname, Option.some.injEq] at hafter
    subst hafter
    simp only [consider, hname]
    exact h
  | some name =>
    simp only [Catalogue.follow?, hname] at hafter
    -- an event that does not fit what exists cannot be followed
    cases change with
    | added =>
      cases hcontains : catalogue.contains name with
      | true => simp only [hcontains, reduceCtorEq] at hafter
      | false =>
        simp only [hcontains, Option.some.injEq] at hafter
        subst hafter
        simp only [consider, hname]
        exact covers_startIfTargeting h (by simpa using hcontains) schedule
    | modified =>
      cases hcontains : catalogue.contains name with
      | false => simp only [hcontains, reduceCtorEq] at hafter
      | true =>
        simp only [hcontains, Option.some.injEq] at hafter
        subst hafter
        simp only [consider, hname]
        split
        next htargets => exact covers_startIfTargeting_of_targets h name htargets
        next htargets =>
          exact covers_stop_of_not_targets h name "scheduled backup no longer targets this cluster"
            (by simpa using htargets)
    | deleted =>
      cases hcontains : catalogue.contains name with
      | false => simp only [hcontains, reduceCtorEq] at hafter
      | true =>
        simp only [hcontains, Option.some.injEq] at hafter
        subst hafter
        simp only [consider, hname]
        exact covers_stop_erase h name _

end Roster

end BackupMonitor
