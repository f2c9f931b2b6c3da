import BackupMonitor.Proofs.Catalogue
import BackupMonitor.Proofs.RosterAccount
import BackupMonitor.Proofs.WatcherInvariant

/-!
# The schedules of a cluster

A watcher starts a tracker only for a schedule that it was told of, by a listing or by an event
about a new or changed schedule, and only if that schedule is for its cluster:
`WatcherRun.exists_told`.
-/

namespace BackupMonitor

/-- The state of a schedule came in with a listing, or with an event about a schedule that
appeared or changed. -/
inductive IsTold (past : List Occurrence) (schedule : Object) : Prop where
  /-- A listing has the schedule. -/
  | listed {listing : Listing} (hlisted : .listed .scheduledBackup listing ∈ past)
      (hmem : schedule ∈ listing.items)
  /-- An event is about the schedule. -/
  | took {event : Event} (htook : .took event ∈ past) (hchange : event.change ≠ .deleted)
      (hobject : event.object = schedule)

/-- A watcher does not forget what it was told. -/
lemma IsTold.append {past : List Occurrence} {schedule : Object} (h : IsTold past schedule)
    (did : List Occurrence) : IsTold (past ++ did) schedule := by
  cases h with
  | listed hlisted hmem => exact .listed (List.mem_append_left _ hlisted) hmem
  | took htook hchange hobject => exact .took (List.mem_append_left _ htook) hchange hobject

namespace Roster

variable {r : Roster} {cluster name : String} {schedule : Object} {o : String × Token}

/-! ## Whom an operation starts a tracker for -/

lemma mem_origins_start (h : o ∈ (r.start name).1.origins) : o ∈ r.origins ∨ o.1 = name := by
  cases hget : r.registry.get? name with
  | some token =>
    rw [start_of_some hget] at h
    exact .inl h
  | none =>
    rw [origins_start hget, List.mem_append, List.mem_singleton] at h
    exact h.imp_right (congrArg Prod.fst)

/-- Only a schedule of the cluster gets a tracker. -/
lemma mem_origins_startIfTargeting (h : o ∈ (r.startIfTargeting cluster name schedule).1.origins) :
    o ∈ r.origins ∨ (o.1 = name ∧ targets cluster schedule = true) := by
  simp only [startIfTargeting] at h
  split at h
  next htargets => exact (mem_origins_start h).imp_right fun hname => ⟨hname, htargets⟩
  next => exact .inl h

lemma mem_origins_enlist (h : o ∈ (enlist cluster r schedule).1.origins) :
    o ∈ r.origins ∨ (schedule.name = some o.1 ∧ targets cluster schedule = true) := by
  unfold enlist at h
  split at h
  next => exact .inl h
  next name hname =>
    exact (mem_origins_startIfTargeting h).imp_right fun ⟨ho, htargets⟩ => ⟨ho ▸ hname, htargets⟩

/-- A listing leads to trackers for those of its schedules that are for the cluster. -/
lemma mem_origins_enlistAll {schedules : List Object}
    (h : o ∈ (enlistAll cluster r schedules).1.origins) :
    o ∈ r.origins ∨ ∃ schedule ∈ schedules, schedule.name = some o.1 ∧
      targets cluster schedule = true := by
  induction schedules generalizing r with
  | nil => exact .inl h
  | cons schedule rest ih =>
    rw [enlistAll_cons] at h
    rcases ih h with hfirst | ⟨other, hother, htargets⟩
    · exact (mem_origins_enlist hfirst).imp_right fun hschedule =>
        ⟨schedule, List.mem_cons_self, hschedule⟩
    · exact .inr ⟨other, List.mem_cons_of_mem _ hother, htargets⟩

/-- An event leads to a tracker if it is about a schedule that is for the cluster and was not
deleted. -/
lemma mem_origins_consider {event : Event} (h : o ∈ (consider cluster r event).1.origins) :
    o ∈ r.origins ∨ (event.change ≠ .deleted ∧ event.object.name = some o.1 ∧
      targets cluster event.object = true) := by
  unfold consider at h
  split at h
  next => exact .inl h
  next name hname =>
    have hstarted (hchange : event.change ≠ .deleted)
        (h : o ∈ (r.startIfTargeting cluster name event.object).1.origins) :
        o ∈ r.origins ∨ (event.change ≠ .deleted ∧ event.object.name = some o.1 ∧
          targets cluster event.object = true) :=
      (mem_origins_startIfTargeting h).imp_right fun ⟨ho, htargets⟩ =>
        ⟨hchange, ho ▸ hname, htargets⟩
    split at h
    next hchange => exact hstarted (by simp [hchange]) h
    next hchange =>
      split at h
      · exact hstarted (by simp [hchange]) h
      · exact .inl h
    next => exact .inl h

end Roster

namespace Watcher

/-- Every tracker was started for a schedule of the cluster that came in. -/
def OriginsTold (cluster : String) (r : Roster) (past : List Occurrence) : Prop :=
  ∀ o ∈ r.origins, ∃ schedule, IsTold past schedule ∧ schedule.name = some o.1 ∧
    Roster.targets cluster schedule = true

variable {view : View} {r : Roster} {cluster : String} {stage : WatcherStage}
  {change : WatcherChange} {past : List Occurrence}

/-- Where no tracker is started there is nothing new to account for. -/
lemma OriginsTold.of_origins_eq (h : OriginsTold cluster r past) {after : Roster}
    (hsame : after.origins = r.origins) (did : List Occurrence) :
    OriginsTold cluster after (past ++ did) := by
  intro o ho
  obtain ⟨schedule, htold, hschedule⟩ := h o (hsame ▸ ho)
  exact ⟨schedule, htold.append did, hschedule⟩

/-- Stopping all trackers starts none. -/
lemma origins_drain (r : Roster) (next : AfterDrain) (did : List Occurrence) :
    (drain r next did).roster.origins = r.origins := by
  unfold Roster.origins
  exact congrArg _ (Roster.trackers_close _)

/-- A step starts trackers only for schedules that the watcher was told of. -/
lemma Step.originsTold (h : Step view r cluster stage change) (htold : OriginsTold cluster r past) :
    OriginsTold cluster change.roster (past ++ change.did) := by
  cases h with
  | begin => exact htold.of_origins_eq rfl _
  | relist => exact htold.of_origins_eq rfl _
  | finish => exact htold.of_origins_eq rfl _
  | cancel => exact htold.of_origins_eq (origins_drain r _ _) _
  | callList => exact htold.of_origins_eq rfl _
  | listFails => exact htold.of_origins_eq (origins_drain r _ _) _
  | callWatch => exact htold.of_origins_eq rfl _
  | watchFails => exact htold.of_origins_eq (origins_drain r _ _) _
  | opened => exact htold.of_origins_eq rfl _
  | sawEnd => exact htold.of_origins_eq (origins_drain r _ _) _
  | listed =>
    intro o ho
    rcases Roster.mem_origins_enlistAll ho with hold | ⟨schedule, hmem, hschedule⟩
    · exact htold.of_origins_eq rfl _ o hold
    · exact ⟨schedule, .listed (List.mem_append_right _ List.mem_cons_self) hmem, hschedule⟩
  | take =>
    intro o ho
    rcases Roster.mem_origins_consider ho with hold | ⟨hchange, hschedule⟩
    · exact htold.of_origins_eq rfl _ o hold
    · exact ⟨_, .took (List.mem_append_right _ List.mem_cons_self) hchange rfl, hschedule⟩

lemma isKept_originsTold (cluster : String) :
    IsKept cluster fun _ r past => OriginsTold cluster r past where
  watcher hstep h := hstep.originsTold h
  tracker _ _ h next := by
    -- a tracker that moves on keeps its schedule and its token
    unfold OriginsTold
    rw [Roster.origins_setStage]
    exact h
  backups {r _ _} h F := by
    unfold OriginsTold
    rw [Roster.origins_withFeeds]
    exact h
  schedules h _ := h
  cancel h := h

end Watcher

/-- Every tracker of a watcher is for a schedule of the cluster that the watcher was told of. -/
theorem System.WatcherRun.exists_told {setup : Setup} {cluster : String} {s : System}
    (h : WatcherRun setup cluster s) {t : Tracker} (ht : t ∈ s.roster.trackers) :
    ∃ schedule, IsTold (s.trace.ofTask (.watcher 0)) schedule ∧
      schedule.name = some t.schedule ∧ schedule.scheduleCluster = .ok (some cluster) := by
  have hnone (r : Roster) (htrackers : r.trackers = []) : Watcher.OriginsTold cluster r [] := by
    intro o ho
    simp [Roster.origins, htrackers] at ho
  obtain ⟨w, -, -, htold⟩ := (Watcher.isKept_originsTold cluster).watcherRun
    (fun r htrackers _ => hnone r htrackers) h
  obtain ⟨schedule, hschedule, hname, htargets⟩ := htold t.origin (List.mem_map_of_mem ht)
  exact ⟨schedule, hschedule, hname, Roster.targets_iff.mp htargets⟩

end BackupMonitor
