import BackupMonitor.Proofs.Step
import BackupMonitor.Proofs.TrackerMove

/-!
# The history of a watcher

What a watcher can come to is told by its own steps, whatever the roster looks like when it takes
them and whatever comes in over its watch. `Watcher.History` is the life of one watcher with that
left open, and `Reachable.watcherHistory` finds it in every run, also where several watchers share
the roster.
-/

namespace BackupMonitor

/-! ## The life of one watcher -/

namespace Watcher

/-- A watcher that got here by doing `past`, whatever it saw when it took its steps and whatever
came in over its watch. -/
inductive History (setup : Setup) : Watcher → List Occurrence → Prop where
  /-- The watcher has not run yet. -/
  | spawned {w : Watcher} (hstage : w.stage = .spawned) : History setup w []
  /-- Something came in over its watch. -/
  | fed {w : Watcher} {past : List Occurrence} (f : Feed → Feed) (h : History setup w past) :
      History setup (w.updateFeed f) past
  /-- It took a step. -/
  | stepped {w : Watcher} {past : List Occurrence} {view : View} {r : Roster}
      {change : WatcherChange} (hview : view.setup = setup) (h : History setup w past)
      (hstep : Step view r w.cluster w.stage change) :
      History setup { w with stage := change.stage } (past ++ change.did)

lemma stage_updateFeed {P : WatcherStage → Prop} {w : Watcher} (f : Feed → Feed)
    (following : ∀ feed, P (.following feed) → P (.following (f feed))) (h : P w.stage) :
    P (w.updateFeed f).stage := by
  unfold updateFeed
  split
  next feed hstage => exact following feed (hstage ▸ h)
  next => exact h

end Watcher

namespace System

open Watcher (History)

variable {setup : Setup} {s next : System}

/-- Every watcher of the system has a history that ends where it is, and no other has done
anything. -/
def WatchersHaveHistory (setup : Setup) (s : System) : Prop :=
  (∀ index w, s.watchers[index]? = some w → History setup w (s.trace.ofTask (.watcher index))) ∧
  ∀ index, s.watchers.length ≤ index → s.trace.ofTask (.watcher index) = []

/-- A watcher that starts has a history. -/
lemma WatchersHaveHistory.start (h : WatchersHaveHistory setup s) (cluster : String) :
    WatchersHaveHistory setup (s.start (.watcher cluster)) := by
  obtain ⟨hhas, hnone⟩ := h
  constructor
  · intro index w hw
    have hw : (s.watchers ++ [({ cluster } : Watcher)])[index]? = some w := hw
    show History setup w (s.trace.ofTask (.watcher index))
    -- a watcher was there before, or nothing was done yet under its index
    by_cases hindex : index < s.watchers.length
    · refine hhas index w ?_
      rwa [List.getElem?_append_left hindex] at hw
    · rw [hnone index (by omega)]
      rw [List.getElem?_append_right (by omega)] at hw
      rw [List.mem_singleton.mp (List.mem_of_getElem? hw)]
      exact .spawned rfl
  · intro index hindex
    have hindex : (s.watchers ++ [({ cluster } : Watcher)]).length ≤ index := hindex
    rw [List.length_append] at hindex
    exact hnone index (by omega)

/-- What comes in over the watches keeps the histories. -/
lemma WatchersHaveHistory.withFeeds (h : WatchersHaveHistory setup s)
    (F : TaskId → Feed → Feed) : WatchersHaveHistory setup (s.withFeeds F) := by
  refine ⟨fun index w hw => ?_, fun index hindex => h.2 index (by simpa using hindex)⟩
  rw [getElem?_watchers_withFeeds, Option.map_eq_some_iff] at hw
  obtain ⟨v, hv, rfl⟩ := hw
  exact .fed _ (h.1 index v hv)

lemma WatchersHaveHistory.apply (h : WatchersHaveHistory setup s) (input : Input) :
    WatchersHaveHistory setup (s.apply input) := by
  cases input with
  | start role =>
    cases role with
    | tracker schedule => exact h
    | watcher cluster => exact h.start cluster
  | event => exact h.withFeeds _
  | close => exact h.withFeeds _
  | arrive => exact h.withFeeds _
  | items => exact h
  | fault => exact h
  | hold => exact h
  | holdSinks => exact h
  | cancel => exact h

lemma WatchersHaveHistory.step (h : WatchersHaveHistory setup s) {task : TaskId}
    (hstep : s.step setup task = some next) : WatchersHaveHistory setup next := by
  obtain ⟨hhas, hnone⟩ := h
  cases task with
  | tracker index =>
    obtain ⟨t, stage, did, -, -, rfl⟩ := step_tracker_eq_some hstep
    -- what a tracker does stands under its own name
    have hsame (other : Nat) : Trace.ofTask (s.trace ++ (did ++ s.failureLog did).map
        (⟨.tracker index, ·⟩)) (.watcher other) = s.trace.ofTask (.watcher other) := by
      rw [ofTask_append_map, if_neg (by simp), List.append_nil]
    constructor
    · intro other w hw
      rw [hsame]
      exact hhas other w hw
    · intro other hother
      rw [hsame]
      exact hnone other hother
  | watcher index =>
    obtain ⟨w, change, hw, hchange, rfl⟩ := step_watcher_eq_some hstep
    constructor
    · intro other u hu
      simp only [List.getElem?_modify, Option.map_eq_map, Option.map_eq_some_iff] at hu
      obtain ⟨v, hv, rfl⟩ := hu
      rw [ofTask_append_map]
      -- the past goes on for the watcher that took the step, and for no other
      by_cases hother : index = other
      · subst hother
        obtain rfl : w = v := Option.some.inj (hw.symm.trans hv)
        rw [if_pos rfl, if_pos rfl]
        exact .stepped rfl (hhas index w hw) (Watcher.step_cases hchange)
      · rw [if_neg hother, if_neg (by simpa using hother), List.append_nil]
        exact hhas other v hv
    · intro other hother
      simp only [List.length_modify] at hother
      have hindex : index < s.watchers.length := (List.getElem?_eq_some_iff.mp hw).1
      have hne : index ≠ other := by omega
      rw [ofTask_append_map, if_neg (by simpa using hne), List.append_nil]
      exact hnone other hother

/-- In a reachable system every watcher has a history. -/
lemma Reachable.watchersHaveHistory (h : Reachable setup s) : WatchersHaveHistory setup s := by
  refine h.induct ⟨?_, ?_⟩ (fun _ input h => h.apply input) (fun _ _ _ h hstep => h.step hstep)
  · intro index w hw
    cases hw
  · intro index _
    rfl

/-- In every run, what a watcher did is a history that ends where the watcher is. -/
theorem Reachable.watcherHistory (h : Reachable setup s) {index : Nat} {w : Watcher}
    (hw : s.watchers[index]? = some w) : History setup w (s.trace.ofTask (.watcher index)) :=
  h.watchersHaveHistory.1 index w hw

end System

end BackupMonitor
