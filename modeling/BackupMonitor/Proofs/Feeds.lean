import BackupMonitor.Engine.System
import Mathlib.Tactic.Lemma

/-!
# What comes in over the watches

Whatever comes in over watches, for all tasks of a kind or for one task alone, changes the open
watch of every task in a way of its own (`System.withFeeds`), and nothing else. What is kept by that
is kept by events, by the ends of watches, and by arrivals at one task.
-/

namespace BackupMonitor

/-! ## Additions to a feed -/

namespace Feed

/-- Something comes in over a watch after what is waiting, or nothing does. -/
def IsIntake (f : Feed → Feed) : Prop :=
  ∀ feed, ∃ more, (f feed).queue = feed.queue ++ more

lemma isIntake_id : IsIntake id := fun feed => ⟨[], (List.append_nil feed.queue).symm⟩

/-- An event comes last, unless the watch has ended. -/
lemma isIntake_push (event : Event) : IsIntake (·.push event) := by
  intro feed
  simp only [push]
  split
  · exact ⟨[], (List.append_nil feed.queue).symm⟩
  · exact ⟨[event], rfl⟩

/-- The end of a watch leaves what is waiting. -/
lemma isIntake_close : IsIntake close := fun feed => ⟨[], (List.append_nil feed.queue).symm⟩

/-- Whatever comes in comes last. -/
lemma isIntake_add (arrival : Arrival) : IsIntake (·.add arrival) := by
  cases arrival with
  | event event => exact isIntake_push event
  | ended => exact isIntake_close

end Feed

/-! ## The watch of a task -/

namespace Tracker

@[simp] lemma updateFeed_id (t : Tracker) : t.updateFeed id = t := by
  obtain ⟨schedule, token, stage⟩ := t
  cases stage <;> rfl

lemma updateFeed_updateFeed (t : Tracker) (f g : Feed → Feed) :
    (t.updateFeed f).updateFeed g = t.updateFeed (g ∘ f) := by
  obtain ⟨schedule, token, stage⟩ := t
  cases stage <;> rfl

/-- The watch belongs to the stage. -/
lemma mk_stage_updateFeed (schedule : String) (token : Token) (stage : TrackerStage)
    (f : Feed → Feed) : updateFeed { schedule, token, stage } f =
      { schedule, token, stage := (updateFeed { schedule, token, stage } f).stage } := by
  cases stage <;> rfl

/-- A stage that follows does not depend on the watch before. -/
lemma updateFeed_with_stage (t : Tracker) (f : Feed → Feed) (stage : TrackerStage) :
    ({ t.updateFeed f with stage } : Tracker) = { t with stage } := by
  obtain ⟨schedule, token, old⟩ := t
  cases old <;> rfl

/-- A tracker that has just been started has no watch. -/
lemma updateFeed_of_spawned {t : Tracker} (h : t.stage = .spawned) (f : Feed → Feed) :
    t.updateFeed f = t := by
  unfold updateFeed
  rw [h]

end Tracker

namespace Watcher

@[simp] lemma updateFeed_id (w : Watcher) : w.updateFeed id = w := by
  obtain ⟨cluster, stage⟩ := w
  cases stage <;> rfl

lemma updateFeed_updateFeed (w : Watcher) (f g : Feed → Feed) :
    (w.updateFeed f).updateFeed g = w.updateFeed (g ∘ f) := by
  obtain ⟨cluster, stage⟩ := w
  cases stage <;> rfl

/-- The watch belongs to the stage. -/
lemma mk_stage_updateFeed (cluster : String) (stage : WatcherStage) (f : Feed → Feed) :
    updateFeed { cluster, stage } f =
      { cluster, stage := (updateFeed { cluster, stage } f).stage } := by
  cases stage <;> rfl

end Watcher

/-! ## Lists whose entries change by their places -/

/-- Changing one entry and changing each entry by its place commute if they do at that place. -/
lemma mapIdx_modify {α : Type} {f : Nat → α → α} {g : α → α} {place : Nat} (xs : List α)
    (h : ∀ a, f place (g a) = g (f place a)) :
    (xs.modify place g).mapIdx f = (xs.mapIdx f).modify place g := by
  refine List.ext_getElem? fun index => ?_
  rw [List.getElem?_mapIdx, List.getElem?_modify, List.getElem?_modify, List.getElem?_mapIdx]
  by_cases hindex : place = index
  · subst hindex
    cases xs[place]? with
    | none => rfl
    | some a => simp [h]
  · cases xs[index]? <;> simp [hindex]

/-- The place of an entry plays no part in how it changes. -/
lemma mapIdx_eq_map {α : Type} {f : Nat → α → α} {g : α → α} (h : ∀ index a, f index a = g a)
    (xs : List α) : xs.mapIdx f = xs.map g := by
  refine List.mapIdx_eq_iff.mpr fun index => ?_
  have hsame : f index = g := funext (h index)
  rw [List.getElem?_map, hsame]

/-- What is read off the entries changes by their places if it does so entry by entry. -/
lemma map_mapIdx {α β : Type} {f : Nat → α → α} {f' : Nat → β → β} {g : α → β}
    (h : ∀ index a, g (f index a) = f' index (g a)) (xs : List α) :
    (xs.mapIdx f).map g = (xs.map g).mapIdx f' := by
  refine (List.mapIdx_eq_iff.mpr fun index => ?_).symm
  have hsame : g ∘ f index = f' index ∘ g := funext (h index)
  rw [List.getElem?_map, List.getElem?_mapIdx, List.getElem?_map, Option.map_map, Option.map_map,
    hsame]

/-- Trackers to which nothing comes in stay as they are. -/
lemma Tracker.mapIdx_updateFeed_id (ts : List Tracker) :
    ts.mapIdx (fun _ t => t.updateFeed id) = ts :=
  (mapIdx_eq_map (fun _ => updateFeed_id) ts).trans ts.map_id

/-- Watchers to which nothing comes in stay as they are. -/
lemma Watcher.mapIdx_updateFeed_id (ws : List Watcher) :
    ws.mapIdx (fun _ w => w.updateFeed id) = ws :=
  (mapIdx_eq_map (fun _ => updateFeed_id) ws).trans ws.map_id

/-! ## The watches of all tasks -/

namespace Roster

/-- Each tracker gets what is for its place. -/
lemma getElem?_withFeeds (r : Roster) (F : Nat → Feed → Feed) (index : Nat) :
    (r.withFeeds F).trackers[index]? = r.trackers[index]?.map (·.updateFeed (F index)) :=
  List.getElem?_mapIdx

@[simp] lemma length_withFeeds (r : Roster) (F : Nat → Feed → Feed) :
    (r.withFeeds F).trackers.length = r.trackers.length :=
  List.length_mapIdx

/-- The same comes in over all watches. -/
lemma trackers_withFeeds_const (r : Roster) (f : Feed → Feed) :
    (r.withFeeds fun _ => f).trackers = r.trackers.map (·.updateFeed f) :=
  mapIdx_eq_map (g := (Tracker.updateFeed · f)) (fun _ _ => rfl) r.trackers

/-- What a tracker keeps whatever comes in over its watch is kept by all. -/
lemma map_withFeeds {β : Type} {g : Tracker → β} (h : ∀ t f, g (t.updateFeed f) = g t)
    (r : Roster) (F : Nat → Feed → Feed) :
    (r.withFeeds F).trackers.map g = r.trackers.map g := by
  have hmap : (r.withFeeds F).trackers.map g = (r.trackers.map g).mapIdx fun _ => id :=
    map_mapIdx (fun index t => h t (F index)) r.trackers
  rw [hmap, mapIdx_eq_map (g := id) fun _ _ => rfl, List.map_id]

lemma withFeeds_withFeeds (r : Roster) (F G : Nat → Feed → Feed) :
    (r.withFeeds F).withFeeds G = r.withFeeds fun index => G index ∘ F index := by
  unfold withFeeds
  simp only [List.mapIdx_mapIdx, Function.comp_def, Tracker.updateFeed_updateFeed]

lemma withFeeds_id (r : Roster) : r.withFeeds (fun _ => id) = r := by
  unfold withFeeds
  rw [Tracker.mapIdx_updateFeed_id]

end Roster

namespace System

@[simp] lemma roster_withFeeds (s : System) (F : TaskId → Feed → Feed) :
    (s.withFeeds F).roster = s.roster.withFeeds (F ∘ .tracker) := rfl

/-- Each watcher gets what is for it. -/
lemma getElem?_watchers_withFeeds (s : System) (F : TaskId → Feed → Feed) (index : Nat) :
    (s.withFeeds F).watchers[index]? =
      s.watchers[index]?.map (·.updateFeed (F (.watcher index))) :=
  List.getElem?_mapIdx

/-- Each tracker gets what is for it. -/
lemma getElem?_trackers_withFeeds (s : System) (F : TaskId → Feed → Feed) (index : Nat) :
    (s.withFeeds F).roster.trackers[index]? =
      s.roster.trackers[index]?.map (·.updateFeed (F (.tracker index))) :=
  s.roster.getElem?_withFeeds _ index

@[simp] lemma length_watchers_withFeeds (s : System) (F : TaskId → Feed → Feed) :
    (s.withFeeds F).watchers.length = s.watchers.length :=
  List.length_mapIdx

@[simp] lemma isEmpty_watchers_withFeeds (s : System) (F : TaskId → Feed → Feed) :
    (s.withFeeds F).watchers.isEmpty = s.watchers.isEmpty := by
  unfold withFeeds
  cases s.watchers with
  | nil => rfl
  | cons w watchers => rw [List.mapIdx_cons]; rfl

lemma withFeeds_withFeeds (s : System) (F G : TaskId → Feed → Feed) :
    (s.withFeeds F).withFeeds G = s.withFeeds fun task => G task ∘ F task := by
  unfold withFeeds Roster.withFeeds
  simp only [List.mapIdx_mapIdx, Function.comp_def, Tracker.updateFeed_updateFeed,
    Watcher.updateFeed_updateFeed]

lemma withFeeds_id (s : System) : s.withFeeds (fun _ => id) = s := by
  have hroster : s.roster.withFeeds ((fun _ => id) ∘ TaskId.tracker) = s.roster :=
    s.roster.withFeeds_id
  unfold withFeeds
  rw [Watcher.mapIdx_updateFeed_id, hroster]

/-! ## A kind, or one task -/

@[simp] lemma feedsOf_id (kind : ResourceKind) : feedsOf kind id = fun _ => id :=
  funext fun _ => ite_self id

@[simp] lemma feedOf_id (task : TaskId) : feedOf task id = fun _ => id :=
  funext fun _ => ite_self id

@[simp] lemma feedOf_self (task : TaskId) (f : Feed → Feed) : feedOf task f task = f :=
  if_pos rfl

/-- A task to which nothing comes in leaves the system as it is. -/
lemma withFeeds_feedOf_id (s : System) (task : TaskId) : s.withFeeds (feedOf task id) = s := by
  rw [feedOf_id, withFeeds_id]

/-- Whom something reaches, it reaches in the same way. -/
lemma isIntake_feedsOf {f : Feed → Feed} (hf : Feed.IsIntake f) (kind : ResourceKind)
    (task : TaskId) : Feed.IsIntake (feedsOf kind f task) := by
  unfold feedsOf
  split
  · exact hf
  · exact Feed.isIntake_id

/-- The one task gets it, and the others get nothing. -/
lemma isIntake_feedOf {f : Feed → Feed} (hf : Feed.IsIntake f) (task other : TaskId) :
    Feed.IsIntake (feedOf task f other) := by
  unfold feedOf
  split
  · exact hf
  · exact Feed.isIntake_id

/-- What reaches no watcher is a matter of the roster. -/
lemma withFeeds_of_watcher_eq_id {F : TaskId → Feed → Feed} (hF : ∀ index, F (.watcher index) = id)
    (s : System) : s.withFeeds F = { s with roster := s.roster.withFeeds (F ∘ .tracker) } := by
  unfold withFeeds
  simp only [hF, Watcher.mapIdx_updateFeed_id]

/-- What reaches no tracker is a matter of the watchers. -/
lemma withFeeds_of_tracker_eq_id {F : TaskId → Feed → Feed} (hF : ∀ index, F (.tracker index) = id)
    (s : System) : s.withFeeds F = { s with
      watchers := s.watchers.mapIdx fun index w => w.updateFeed (F (.watcher index)) } := by
  have hroster : s.roster.withFeeds (F ∘ .tracker) = s.roster := by
    rw [show F ∘ TaskId.tracker = fun _ => id from funext hF, Roster.withFeeds_id]
  unfold withFeeds
  rw [hroster]

end System

end BackupMonitor
