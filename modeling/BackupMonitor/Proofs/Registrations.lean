import BackupMonitor.Proofs.RosterAccount
import BackupMonitor.Proofs.Upkeep

/-!
# Started as often as registered

A watcher starts a tracker for a schedule when the schedule is registered, and at no other time. A
listing can start several trackers in one step, but no two for the same name: the first of them
leaves the name registered. So the trackers of a name can be counted by the moves that make it
registered (`System.spawned_eq_registrations`).
-/

namespace BackupMonitor

namespace Roster

variable {name : String} {r r' r'' : Roster}

/-- How many trackers were started for a schedule. -/
def spawned (r : Roster) (name : String) : Nat :=
  r.trackers.countP (·.schedule == name)

/-- Whether a name that was not registered is registered afterwards. -/
def registersAnew (name : String) (r r' : Roster) : Bool :=
  !r.registry.contains name && r'.registry.contains name

lemma spawned_eq_countP_origins (r : Roster) (name : String) :
    r.spawned name = r.origins.countP (·.1 == name) := by
  unfold spawned origins
  rw [List.countP_map]
  rfl

/-- In going from one roster to another, a tracker was started for the name exactly if the name was
registered anew. -/
def Counts (name : String) (r r' : Roster) : Prop :=
  r'.spawned name = r.spawned name + (registersAnew name r r').toNat

/-- A name that is not registered anew needs no new tracker. -/
lemma counts_of_origins_eq (horigins : r'.origins = r.origins)
    (hregistry : r'.registry.contains name = true → r.registry.contains name = true) :
    Counts name r r' := by
  have hanew : registersAnew name r r' = false := by
    unfold registersAnew
    cases hafter : r'.registry.contains name with
    | false => exact Bool.and_false _
    | true => rw [hregistry hafter]; rfl
  unfold Counts
  rw [hanew, spawned_eq_countP_origins, spawned_eq_countP_origins, horigins]
  rfl

lemma counts_of_trackers_eq (htrackers : r'.trackers = r.trackers)
    (hregistry : r'.registry.contains name = true → r.registry.contains name = true) :
    Counts name r r' :=
  counts_of_origins_eq (by unfold origins; rw [htrackers]) hregistry

/-! ## Operations that take no name out -/

/-- No name is taken out, and trackers are started for those that are put in. -/
structure Adds (name : String) (r r' : Roster) : Prop where
  /-- The name stays registered. -/
  kept : r.registry.contains name = true → r'.registry.contains name = true
  /-- A tracker is started if it is registered anew. -/
  counts : Counts name r r'

namespace Adds

lemma refl (name : String) (r : Roster) : Adds name r r :=
  ⟨id, counts_of_origins_eq rfl id⟩

/-- A name that the first operation registers is not registered anew by the second one. -/
lemma trans (h : Adds name r r') (h' : Adds name r' r'') : Adds name r r'' := by
  obtain ⟨hkept, hcounts⟩ := h
  obtain ⟨hkept', hcounts'⟩ := h'
  refine ⟨hkept' ∘ hkept, ?_⟩
  unfold Counts registersAnew at hcounts hcounts' ⊢
  rw [hcounts', hcounts]
  cases hr : r.registry.contains name with
  | true =>
    rw [hkept hr]
    rfl
  | false =>
    cases hr' : r'.registry.contains name with
    | true =>
      rw [hkept' hr']
      rfl
    | false => rfl

end Adds

/-- A tracker is started only for a schedule that is not registered, which it is then. -/
lemma adds_start (r : Roster) (schedule name : String) : Adds name r (r.start schedule).1 := by
  have hcontains := contains_start r schedule name
  refine ⟨fun h => by rw [hcontains, h, Bool.or_true], ?_⟩
  cases hget : r.registry.get? schedule with
  | some token =>
    rw [start_of_some hget]
    exact (Adds.refl name r).counts
  | none =>
    unfold Counts registersAnew
    rw [hcontains, spawned_eq_countP_origins, spawned_eq_countP_origins, origins_start hget,
      List.countP_append, List.countP_singleton]
    by_cases hname : name = schedule
    · simp [hname, hget]
    · have hne : schedule ≠ name := fun h => hname h.symm
      simp [hname, hne]

lemma adds_startIfTargeting (r : Roster) (cluster schedule : String) (object : Object)
    (name : String) : Adds name r (r.startIfTargeting cluster schedule object).1 := by
  simp only [startIfTargeting]
  split
  · exact adds_start r schedule name
  · exact .refl name r

lemma adds_enlistAll (r : Roster) (cluster : String) (schedules : List Object) (name : String) :
    Adds name r (r.enlistAll cluster schedules).1 := by
  induction schedules generalizing r with
  | nil => exact .refl name r
  | cons schedule rest ih =>
    rw [enlistAll_cons]
    refine Adds.trans ?_ (ih _)
    unfold enlist
    split
    · exact .refl name r
    · exact adds_startIfTargeting r cluster _ schedule name

/-! ## All operations -/

/-- Stopping a tracker starts none. -/
lemma counts_stop (r : Roster) (schedule reason name : String) :
    Counts name r (r.stop schedule reason).1 := by
  refine counts_of_trackers_eq rfl fun h => ?_
  rw [contains_stop, Bool.and_eq_true] at h
  exact h.2

lemma counts_consider (r : Roster) (cluster : String) (event : Event) (name : String) :
    Counts name r (r.consider cluster event).1 := by
  unfold consider
  split
  · exact (Adds.refl name r).counts
  · split
    · exact (adds_startIfTargeting r cluster _ _ name).counts
    · split
      · exact (adds_startIfTargeting r cluster _ _ name).counts
      · exact counts_stop r _ "scheduled backup no longer targets this cluster" name
    · exact counts_stop r _ _ name

end Roster

open Roster (Counts)

/-- A step of a watcher starts a tracker for a name exactly if it registers the name anew. -/
theorem Watcher.Step.counts {view : View} {r : Roster} {cluster : String} {stage : WatcherStage}
    {change : WatcherChange} (h : Watcher.Step view r cluster stage change) (name : String) :
    Counts name r change.roster := by
  cases h.cycleChange [] with
  | begins hstage hnext hcycle hroster =>
    rw [hroster]
    exact (Roster.adds_enlistAll r cluster _ name).counts
  | takes hstage hnext hcycle hroster =>
    rw [hroster]
    exact Roster.counts_consider r cluster _ name
  | goesOn hstage hnext hcycle hroster =>
    rw [hroster]
    exact (Roster.Adds.refl name r).counts
  | outside hnext htrackers hregistry =>
    refine Roster.counts_of_trackers_eq htrackers fun hcontains => ?_
    rcases hregistry with hempty | ⟨-, hsame⟩
    · rw [hempty] at hcontains
      cases hcontains
    · rwa [hsame] at hcontains

/-! ## Moves -/

namespace System

variable {setup : Setup} {s next later : System}

/-- How many of the moves register a name anew. -/
def registrations (setup : Setup) (name : String) : System → List Move → Nat
  | _, [] => 0
  | s, move :: moves =>
    match s.move setup move with
    | some next =>
      (Roster.registersAnew name s.roster next.roster).toNat + registrations setup name next moves
    | none => 0

/-- A move starts a tracker for a name exactly if it registers the name anew, unless it starts a
tracker from outside. -/
lemma counts_of_move {move : Move} (h : s.move setup move = some next)
    (hrole : ∀ schedule, move.role? ≠ some (.tracker schedule)) (name : String) :
    Counts name s.roster next.roster := by
  have hrefl : Counts name s.roster s.roster := (Roster.Adds.refl name s.roster).counts
  cases move with
  | input input =>
    obtain rfl : s.apply input = next := Option.some.inj h
    have hfeeds (F : TaskId → Feed → Feed) : Counts name s.roster (s.withFeeds F).roster :=
      Roster.counts_of_origins_eq (s.roster.origins_withFeeds _) id
    cases input with
    | start role =>
      cases role with
      | tracker schedule => exact absurd rfl (hrole schedule)
      | watcher cluster => exact hrefl
    | event => exact hfeeds _
    | close => exact hfeeds _
    | arrive => exact hfeeds _
    | cancel => exact Roster.counts_of_trackers_eq rfl id
    | items => exact hrefl
    | fault => exact hrefl
    | hold => exact hrefl
    | holdSinks => exact hrefl
  | step task =>
    have h : s.step setup task = some next := h
    cases task with
    | watcher index =>
      obtain ⟨w, change, -, hchange, rfl⟩ := step_watcher_eq_some h
      exact (Watcher.step_cases hchange).counts name
    | tracker index =>
      obtain ⟨t, stage, did, -, -, rfl⟩ := step_tracker_eq_some h
      refine Roster.counts_of_origins_eq (s.roster.origins_setStage index stage) fun hcontains => ?_
      rwa [Roster.registry_setStage] at hcontains

/-- Unless trackers are started from outside, there are as many for a name as there were before and
as there were moves that registered the name anew. -/
theorem spawned_eq_registrations {moves : List Move} (h : s.play setup moves = some later)
    (hroles : ∀ move ∈ moves, ∀ schedule, move.role? ≠ some (.tracker schedule)) (name : String) :
    later.roster.spawned name = s.roster.spawned name + registrations setup name s moves := by
  induction moves generalizing s with
  | nil =>
    obtain rfl : s = later := Option.some.inj h
    rfl
  | cons move moves ih =>
    simp only [play] at h
    split at h
    next mid hmid =>
      have hfirst : Counts name s.roster mid.roster :=
        counts_of_move hmid (hroles move List.mem_cons_self) name
      have hrest := ih h fun other hother => hroles other (List.mem_cons_of_mem _ hother)
      unfold Counts at hfirst
      simp only [registrations, hmid]
      omega
    next => cases h

end System

end BackupMonitor
