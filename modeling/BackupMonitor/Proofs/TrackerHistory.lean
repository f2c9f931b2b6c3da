import BackupMonitor.Proofs.RosterChange
import BackupMonitor.Proofs.Run

/-!
# The history of a tracker

What a tracker can come to does not depend on the other tasks: they only choose what it sees when
it takes a step, and what comes in over its watch. `Tracker.History` is the life of one tracker
with that left open, and `Reachable.history` finds it in every run, for trackers that run on
their own and for those of a watcher alike.
-/

namespace BackupMonitor

/-! ## The life of one tracker -/

namespace Tracker

/-- A tracker that got here by doing `past`, whatever it saw when it took its steps and whatever
came in over its watch. A step may be followed by log lines. -/
inductive History (setup : Setup) : Tracker → List Occurrence → Prop where
  /-- The tracker has not run yet. -/
  | spawned {t : Tracker} (hstage : t.stage = .spawned) : History setup t []
  /-- Something came in over its watch. -/
  | fed {t : Tracker} {past : List Occurrence} (f : Feed → Feed) (h : History setup t past) :
      History setup (t.updateFeed f) past
  /-- It took a step. -/
  | stepped {t : Tracker} {past did : List Occurrence} {view : View} {stage : TrackerStage}
      (hview : view.setup = setup) (lines : List Log.Line) (h : History setup t past)
      (hstep : Step view t.schedule t.stage stage did) :
      History setup { t with stage } (past ++ (did ++ lines.map .logged))

end Tracker

namespace System

open Tracker (History)

variable {setup : Setup} {s next : System}

/-- Every tracker of the system has a history that ends where it is, and no other has done
anything. -/
def TrackersHaveHistory (setup : Setup) (s : System) : Prop :=
  (∀ index t, s.roster.trackers[index]? = some t →
    History setup t (s.trace.ofTask (.tracker index))) ∧
  ∀ index, s.roster.trackers.length ≤ index → s.trace.ofTask (.tracker index) = []

/-- New trackers that have not done anything have a history. -/
lemma TrackersHaveHistory.append {trackers : List Tracker} {trace : Trace}
    (h : TrackersHaveHistory setup s) (htrace : ∀ index, trace.ofTask (.tracker index) =
      s.trace.ofTask (.tracker index)) {fresh : List Tracker}
    (htrackers : trackers = s.roster.trackers ++ fresh) (hfresh : ∀ t ∈ fresh, t.stage = .spawned) :
    (∀ index t, trackers[index]? = some t → History setup t (trace.ofTask (.tracker index))) ∧
      ∀ index, trackers.length ≤ index → trace.ofTask (.tracker index) = [] := by
  obtain ⟨hhas, hnone⟩ := h
  constructor
  · intro index t ht
    rw [htrace]
    -- a tracker was there before, or nothing was done yet under its index
    by_cases hindex : index < s.roster.trackers.length
    · refine hhas index t ?_
      rwa [htrackers, List.getElem?_append_left hindex] at ht
    · rw [hnone index (by omega)]
      rw [htrackers, List.getElem?_append_right (by omega)] at ht
      exact .spawned (hfresh t (List.mem_of_getElem? ht))
  · intro index hindex
    rw [htrackers, List.length_append] at hindex
    rw [htrace]
    exact hnone index (by omega)

/-- What comes in over a watch is part of the history of the tracker. -/
lemma TrackersHaveHistory.withFeeds (h : TrackersHaveHistory setup s)
    (F : TaskId → Feed → Feed) : TrackersHaveHistory setup (s.withFeeds F) := by
  refine ⟨fun index t ht => ?_, fun index hindex => h.2 index (by simpa using hindex)⟩
  rw [getElem?_trackers_withFeeds, Option.map_eq_some_iff] at ht
  obtain ⟨u, hu, rfl⟩ := ht
  exact .fed _ (h.1 index u hu)

lemma TrackersHaveHistory.apply (h : TrackersHaveHistory setup s) (input : Input) :
    TrackersHaveHistory setup (s.apply input) := by
  cases input with
  | start role =>
    cases role with
    | tracker schedule => exact h.append (fun _ => rfl) rfl (by simp)
    | watcher cluster => exact h
  | event => exact h.withFeeds _
  | close => exact h.withFeeds _
  | arrive => exact h.withFeeds _
  | items => exact h
  | fault => exact h
  | hold => exact h
  | holdSinks => exact h
  | cancel => exact h

/-- A step is added to the history of the task that takes it. -/
lemma TrackersHaveHistory.step (h : TrackersHaveHistory setup s) {task : TaskId}
    (hstep : s.step setup task = some next) : TrackersHaveHistory setup next := by
  cases task with
  | watcher index =>
    obtain ⟨w, change, -, hchange, rfl⟩ := step_watcher_eq_some hstep
    obtain ⟨fresh, htrackers, hfresh⟩ := (Watcher.step_cases hchange).extends_roster
    -- a watcher adds trackers, and what it does stands under its own name
    refine h.append (fun other => ?_) htrackers hfresh
    rw [ofTask_append_map, if_neg (by simp), List.append_nil]
  | tracker index =>
    obtain ⟨t, stage, did, ht, hdid, rfl⟩ := step_tracker_eq_some hstep
    obtain ⟨lines, hlines⟩ := failureLog_eq_logged s did
    obtain ⟨hhas, hnone⟩ := h
    constructor
    · intro other u hu
      simp only [Roster.trackers_setStage, List.getElem?_modify, Option.map_eq_map,
        Option.map_eq_some_iff] at hu
      obtain ⟨v, hv, rfl⟩ := hu
      rw [ofTask_append_map]
      -- the past goes on for the tracker that took the step, and for no other
      by_cases hother : index = other
      · subst hother
        obtain rfl : t = v := Option.some.inj (ht.symm.trans hv)
        rw [if_pos rfl, if_pos rfl, hlines]
        exact .stepped rfl lines (hhas index t ht) (Tracker.step_cases hdid)
      · rw [if_neg hother, if_neg (by simpa using hother), List.append_nil]
        exact hhas other v hv
    · intro other hother
      simp only [Roster.trackers_setStage, List.length_modify] at hother
      have hindex : index < s.roster.trackers.length := (List.getElem?_eq_some_iff.mp ht).1
      have hne : index ≠ other := by omega
      rw [ofTask_append_map, if_neg (by simpa using hne), List.append_nil]
      exact hnone other hother

lemma Reachable.trackersHaveHistory (h : Reachable setup s) : TrackersHaveHistory setup s := by
  refine h.induct ⟨?_, ?_⟩ (fun _ input h => h.apply input) (fun _ _ _ h hstep => h.step hstep)
  · intro index t ht
    cases ht
  · intro index _
    rfl

/-- In every run, what a tracker did is a history that ends where the tracker is. -/
theorem Reachable.history (h : Reachable setup s) {index : Nat} {t : Tracker}
    (ht : s.roster.trackers[index]? = some t) : History setup t (s.trace.ofTask (.tracker index)) :=
  h.trackersHaveHistory.1 index t ht

/-- A tracker that was not started has done nothing. -/
lemma Reachable.ofTask_eq_nil (h : Reachable setup s) {index : Nat}
    (hindex : s.roster.trackers.length ≤ index) : s.trace.ofTask (.tracker index) = [] :=
  h.trackersHaveHistory.2 index hindex

end System

end BackupMonitor
