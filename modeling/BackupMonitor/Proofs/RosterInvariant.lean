import BackupMonitor.Proofs.Forest
import BackupMonitor.Proofs.RosterChange
import BackupMonitor.Proofs.WatcherRun

/-!
# What the roster keeps

Everything that a watcher takes in comes down to starting and stopping trackers, and everything
that a tracker does leaves its schedule and its token alone. `Roster.IsKept P` says that `P` is
kept by each of these few operations; `IsKept.watcherStep`, `IsKept.step` and `IsKept.leadsTo` draw
from it that `P` is kept by the steps of a watcher, by every step, and along a run.
-/

namespace BackupMonitor

/-- What a tracker was started with. -/
def Tracker.origin (t : Tracker) : String × Token := (t.schedule, t.token)

lemma Tracker.origin_updateFeed (t : Tracker) (f : Feed → Feed) :
    (t.updateFeed f).origin = t.origin := by
  unfold updateFeed
  split <;> rfl

namespace Roster

/-- What every tracker was started with, in that order. -/
def origins (r : Roster) : List (String × Token) :=
  r.trackers.map Tracker.origin

/-- Every operation on the roster keeps the property. -/
structure IsKept (P : Roster → Prop) : Prop where
  /-- It is kept by starting a tracker. -/
  start : ∀ r schedule, P r → P (r.start schedule).1
  /-- It is kept by stopping a tracker. -/
  stop : ∀ r schedule reason, P r → P (r.stop schedule reason).1
  /-- It is kept by stopping all trackers. -/
  stopAll : ∀ r, P r → P r.stopAll.1
  /-- It is kept by cancelling the root. -/
  cancel : ∀ r, P r → P { r with tokens := r.tokens.cancel Tokens.root }
  /-- It does not depend on who waits for the trackers. -/
  await : ∀ r closed emptied, P r → P { r with closed, emptied }
  /-- It does not depend on how far the trackers have come. -/
  progress : ∀ r trackers, trackers.map Tracker.origin = r.origins → P r → P { r with trackers }

/-! ## How a roster is closed and its trackers move on -/

/-- It is noted at most that the trackers have all finished. -/
lemma exists_noteEmptied_eq (r after : Roster) :
    ∃ emptied, r.noteEmptied after = { after with emptied } := by
  unfold noteEmptied
  split
  · exact ⟨_, rfl⟩
  · exact ⟨_, rfl⟩

/-- A tracker in another stage was started with the same. -/
lemma map_origin_modify (r : Roster) (index : Nat) (stage : TrackerStage) :
    (r.trackers.modify index ({ · with stage })).map Tracker.origin = r.origins := by
  unfold origins
  refine List.ext_getElem? fun other => ?_
  rw [List.getElem?_map, List.getElem?_map, List.getElem?_modify, Option.map_eq_map,
    Option.map_map]
  congr 1
  funext t
  by_cases h : index = other
  · simp [h, Tracker.origin]
  · simp [h]

/-- A tracker with another watch was started with the same. -/
@[simp] lemma origins_withFeeds (r : Roster) (F : Nat → Feed → Feed) :
    (r.withFeeds F).origins = r.origins :=
  r.map_withFeeds Tracker.origin_updateFeed F

@[simp] lemma origins_setStage (r : Roster) (index : Nat) (stage : TrackerStage) :
    (r.setStage index stage).origins = r.origins := by
  unfold origins
  rw [trackers_setStage]
  exact map_origin_modify r index stage

namespace IsKept

variable {P : Roster → Prop} {r : Roster}

lemma close (hkept : IsKept P) (h : P r) : P r.close := by
  obtain ⟨emptied, hclose⟩ := exists_noteEmptied_eq r { r with closed := true }
  unfold Roster.close
  rw [hclose]
  exact hkept.await r true emptied h

lemma reopen (hkept : IsKept P) (h : P r) : P r.reopen :=
  hkept.await r false r.emptied h

/-- How far one tracker has come is progress as well. -/
lemma setStage (hkept : IsKept P) (h : P r) (index : Nat) (stage : TrackerStage) :
    P (r.setStage index stage) := by
  unfold Roster.setStage
  obtain ⟨emptied, hstage⟩ := exists_noteEmptied_eq r
    { r with trackers := r.trackers.modify index ({ · with stage }) }
  rw [hstage]
  exact hkept.await _ r.closed emptied (hkept.progress r _ (map_origin_modify r index stage) h)

/-- And so is what comes in over the watches. -/
lemma withFeeds (hkept : IsKept P) (h : P r) (F : Nat → Feed → Feed) : P (r.withFeeds F) :=
  hkept.progress r _ (origins_withFeeds r F) h

/-! ## What a watcher takes in -/

lemma startIfTargeting (hkept : IsKept P) (h : P r) (cluster name : String) (schedule : Object) :
    P (r.startIfTargeting cluster name schedule).1 := by
  simp only [Roster.startIfTargeting]
  split
  · exact hkept.start r name h
  · exact h

lemma enlistAll (hkept : IsKept P) (h : P r) (cluster : String) (schedules : List Object) :
    P (r.enlistAll cluster schedules).1 := by
  induction schedules generalizing r with
  | nil => exact h
  | cons schedule rest ih =>
    rw [enlistAll_cons]
    refine ih ?_
    unfold enlist
    split
    · exact h
    · exact hkept.startIfTargeting h cluster _ schedule

lemma consider (hkept : IsKept P) (h : P r) (cluster : String) (event : Event) :
    P (r.consider cluster event).1 := by
  unfold Roster.consider
  split
  · exact h
  · split
    · exact hkept.startIfTargeting h cluster _ _
    · split
      · exact hkept.startIfTargeting h cluster _ _
      · exact hkept.stop r _ "scheduled backup no longer targets this cluster" h
    · exact hkept.stop r _ _ h

end IsKept

end Roster

namespace Roster.IsKept

variable {P : Roster → Prop}

/-- What every operation on the roster keeps is kept by a step of a watcher. -/
theorem watcherStep (hkept : IsKept P) {view : View} {r : Roster} {cluster : String}
    {stage : WatcherStage} {change : WatcherChange}
    (hstep : Watcher.Step view r cluster stage change) (h : P r) : P change.roster := by
  cases hstep with
  | begin => exact h
  | relist => exact hkept.reopen h
  | finish => exact hkept.reopen h
  | cancel => exact hkept.close (hkept.stopAll r h)
  | callList => exact h
  | listFails => exact hkept.close (hkept.stopAll r h)
  | listed => exact hkept.enlistAll h cluster _
  | callWatch => exact h
  | watchFails => exact hkept.close (hkept.stopAll r h)
  | opened => exact h
  | take => exact hkept.consider h cluster _
  | sawEnd => exact hkept.close (hkept.stopAll r h)

variable {setup : Setup} {s next : System}

/-- What every operation on the roster keeps is kept by a step of any task. -/
theorem step (hkept : IsKept P) {task : TaskId} (h : P s.roster)
    (hstep : s.step setup task = some next) : P next.roster := by
  cases task with
  | watcher index =>
    obtain ⟨w, change, -, hchange, rfl⟩ := System.step_watcher_eq_some hstep
    exact hkept.watcherStep (Watcher.step_cases hchange) h
  | tracker index =>
    obtain ⟨t, stage, did, -, -, rfl⟩ := System.step_tracker_eq_some hstep
    exact hkept.setStage h index stage

/-- Input that starts no task is kept, too. -/
lemma apply (hkept : IsKept P) {input : Input} (hrole : input.role? = none) (h : P s.roster) :
    P (s.apply input).roster := by
  cases input with
  | start role => cases hrole
  | event => exact hkept.withFeeds h _
  | close => exact hkept.withFeeds h _
  | arrive => exact hkept.withFeeds h _
  | cancel => exact hkept.cancel s.roster h
  | items => exact h
  | fault => exact h
  | hold => exact h
  | holdSinks => exact h

/-- What every operation on the roster keeps is kept along a run that starts no task. -/
theorem leadsTo (hkept : IsKept P) (hlater : System.LeadsTo setup s next) (h : P s.roster) :
    P next.roster :=
  hlater.invariant (P := fun s => P s.roster) (fun _ _ hrole h => hkept.apply hrole h)
    (fun _ _ _ h hstep => hkept.step h hstep) h

end Roster.IsKept

/-! ## Cancelled tokens -/

namespace Roster

/-- Starting a tracker makes a token, or changes nothing. -/
lemma start_eq (r : Roster) (schedule : String) :
    (r.start schedule).1 =
      if r.registry.contains schedule then r
      else { r with
        tokens := r.tokens.addChild Tokens.root
        registry := r.registry.insert schedule r.tokens.next
        trackers := r.trackers ++ [{ schedule, token := r.tokens.next }] } := by
  simp only [start, Registry.startIfAbsent]
  by_cases hschedule : r.registry.contains schedule
  · rw [if_pos hschedule, if_pos hschedule]
  · rw [if_neg hschedule, if_neg hschedule]

/-- Stopping a tracker cancels the token that is registered, or changes nothing. -/
lemma stop_eq (r : Roster) (schedule reason : String) :
    (r.stop schedule reason).1 =
      match r.registry.get? schedule with
      | none => r
      | some token => { r with
          tokens := r.tokens.cancel token
          registry := r.registry.erase schedule } := by
  simp only [stop, Registry.stop]
  cases r.registry.get? schedule with
  | none => rfl
  | some token => rfl

/-- A token that is cancelled stays so. -/
lemma isKept_isCancelled (token : Token) :
    IsKept fun r => r.tokens.isCancelled token = true where
  start r schedule h := by
    rw [start_eq]
    split
    · exact h
    · exact Tokens.isCancelled_addChild h _
  stop r schedule reason h := by
    rw [stop_eq]
    split
    · exact h
    · exact Tokens.isCancelled_cancel h _
  stopAll _ h := Tokens.isCancelled_cancelAll h _
  cancel _ h := Tokens.isCancelled_cancel h _
  await _ _ _ h := h
  progress _ _ _ h := h

end Roster

end BackupMonitor
