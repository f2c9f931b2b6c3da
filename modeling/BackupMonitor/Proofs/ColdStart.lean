import BackupMonitor.Proofs.Upkeep
import BackupMonitor.Proofs.WatcherInvariant

/-!
# What a new watcher comes to

A watcher that lists again registers what a new watcher would register. `Cycle.roster` is what a new
watcher comes to by a listing and the events that follow it, and `Cycle.Rebuilds` says that a
registry has the same names. It is kept by what a watcher does in a cycle, since every operation
does to two registries with the same names the same thing; so it holds whatever the watcher did
before the cycle.
-/

namespace BackupMonitor

/-- The same names are registered in two registries. -/
def Registry.SameNames (registry registry' : Registry) : Prop :=
  ∀ name, registry.contains name = registry'.contains name

namespace Registry.SameNames

variable {registry registry' : Registry} {r r' : Roster}

/-- Registries with the same names list them alike. -/
lemma names_eq (h : registry.SameNames registry') : registry.names = registry'.names := by
  refine registry.names_ascending.eq_of_mem_iff registry'.names_ascending fun name => ?_
  rw [← Table.isSome_get?_iff, ← Table.isSome_get?_iff, ← Table.contains_eq_isSome,
    ← Table.contains_eq_isSome, h name]

lemma startIfTargeting (h : r.registry.SameNames r'.registry) (cluster name : String)
    (schedule : Object) :
    (r.startIfTargeting cluster name schedule).1.registry.SameNames
      (r'.startIfTargeting cluster name schedule).1.registry := by
  intro other
  rw [Roster.contains_startIfTargeting, Roster.contains_startIfTargeting, h other]

lemma stop (h : r.registry.SameNames r'.registry) (name reason : String) :
    (r.stop name reason).1.registry.SameNames (r'.stop name reason).1.registry := by
  intro other
  rw [Roster.contains_stop, Roster.contains_stop, h other]

/-- A listing is taken in alike where the same names are registered. -/
lemma enlistAll (h : r.registry.SameNames r'.registry) (cluster : String)
    (schedules : List Object) :
    (r.enlistAll cluster schedules).1.registry.SameNames
      (r'.enlistAll cluster schedules).1.registry := by
  induction schedules generalizing r r' with
  | nil => exact h
  | cons schedule rest ih =>
    rw [Roster.enlistAll_cons, Roster.enlistAll_cons]
    refine ih ?_
    unfold Roster.enlist
    split
    · exact h
    · exact h.startIfTargeting cluster _ schedule

/-- A change of a schedule is taken in alike where the same names are registered. -/
lemma consider (h : r.registry.SameNames r'.registry) (cluster : String) (event : Event) :
    (r.consider cluster event).1.registry.SameNames
      (r'.consider cluster event).1.registry := by
  unfold Roster.consider
  split
  · exact h
  · split
    · exact h.startIfTargeting cluster _ _
    · split
      · exact h.startIfTargeting cluster _ _
      · exact h.stop _ "scheduled backup no longer targets this cluster"
    · exact h.stop _ _

end Registry.SameNames

/-- The roster that a new watcher of the cluster comes to by the listing and the events of a
cycle. -/
def Cycle.roster (cycle : Cycle) (cluster : String) : Roster :=
  cycle.events.foldl (fun r event => (r.consider cluster event).1)
    (Roster.enlistAll cluster {} cycle.schedules).1

lemma Cycle.roster_concat (cycle : Cycle) (cluster : String) (event : Event) :
    Cycle.roster { cycle with events := cycle.events ++ [event] } cluster =
      ((cycle.roster cluster).consider cluster event).1 := by
  simp only [Cycle.roster, List.foldl_append, List.foldl_cons, List.foldl_nil]

/-- The registered names are those that a new watcher comes to. -/
def Cycle.Rebuilds (cluster : String) (cycle : Cycle) (registry : Registry) : Prop :=
  registry.SameNames (cycle.roster cluster).registry

/-- An operation does to the registry what it would do to that of a new watcher. -/
lemma Cycle.isKept_rebuilds (cluster : String) : IsKept cluster (Rebuilds cluster) where
  begins r schedules hempty := by
    have hsame : r.registry.SameNames (Roster.registry {}) := fun name => by rw [hempty]
    exact hsame.enlistAll cluster schedules
  takes cycle r event hsame := by
    unfold Rebuilds
    rw [Cycle.roster_concat]
    exact Registry.SameNames.consider hsame cluster event

namespace Watcher

/-- What is kept by the operations on the registry goes on to hold in a cycle, as far as the cycle
can be told from what the watcher did after `before`. -/
lemma isKept_inCycle {cluster : String} {K : Cycle → Registry → Prop}
    (hkept : Cycle.IsKept cluster K) (before : List Occurrence) :
    IsKept cluster fun stage r past =>
      ∃ since, past = before ++ since ∧ InCycle K stage r.registry since where
  watcher hstep h := by
    obtain ⟨since, rfl, hin⟩ := h
    exact ⟨_, List.append_assoc _ _ _, hstep.inCycle hkept hin⟩
  tracker {r stage past index t} _ _ h next := by
    rw [Roster.registry_setStage]
    exact h
  backups h _ := h
  schedules h _ := by
    obtain ⟨since, hpast, hkeeps, hempty⟩ := h
    exact ⟨since, hpast, hkeeps, hempty⟩
  cancel h := h

end Watcher

namespace System

/-- The names that are registered in a cycle are told by what the watcher did. -/
lemma WatcherRun.rebuilds {setup : Setup} {cluster : String} {s : System} {w : Watcher}
    (h : WatcherRun setup cluster s) (hw : s.watchers = [w]) :
    Watcher.InCycle (Cycle.Rebuilds cluster) w.stage s.roster.registry
      (s.trace.ofTask (.watcher 0)) := by
  have halone := (Watcher.isKept_inCycle (Cycle.isKept_rebuilds cluster) []).watcherRun
    (fun r _ hempty => ⟨[], rfl, .of_empty rfl hempty []⟩) h
  obtain ⟨since, hsince, hrebuilds⟩ := halone.of_watchers_eq hw
  rw [hsince]
  exact hrebuilds

end System

end BackupMonitor
