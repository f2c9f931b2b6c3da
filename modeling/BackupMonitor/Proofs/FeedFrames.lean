import BackupMonitor.Proofs.Books
import BackupMonitor.Proofs.Shutdown

/-!
# Feeds of other tasks

What comes in over the watch of one task is nobody else's business: a task takes the same step
whatever the other tasks find in their watches (`System.step_withFeeds`).
-/

namespace BackupMonitor

open Occurrence

namespace Roster

variable {r after : Roster} {F : Nat → Feed → Feed}

lemma withFeeds_noteEmptied (r after : Roster) (F : Nat → Feed → Feed) :
    (r.withFeeds F).noteEmptied (after.withFeeds F) = (r.noteEmptied after).withFeeds F := by
  unfold noteEmptied
  rw [isDrained_withFeeds, isDrained_withFeeds]
  show (if after.closed && after.isDrained && !(r.closed && r.isDrained) then _ else _) = _
  split <;> rfl

lemma noteEmptied_withFeeds (r after : Roster) (F : Nat → Feed → Feed) :
    (r.withFeeds F).noteEmptied after = r.noteEmptied after := by
  unfold noteEmptied
  rw [isDrained_withFeeds]
  rfl

/-- Changing the watches after a tracker has come to a stage is to change those of the others before
it does, and its own in that stage; its watch before that plays no part. -/
lemma withFeeds_setStage {index : Nat} {F G : Nat → Feed → Feed}
    (hother : ∀ other, other ≠ index → F other = G other) {t : Tracker}
    (ht : r.trackers[index]? = some t) (stage : TrackerStage) :
    (r.setStage index stage).withFeeds G =
      (r.withFeeds F).setStage index (Tracker.updateFeed { t with stage } (G index)).stage := by
  have htrackers : (r.trackers.modify index ({ · with stage })).mapIdx
      (fun index t => t.updateFeed (G index)) =
        (r.withFeeds F).trackers.modify index
          ({ · with stage := (Tracker.updateFeed { t with stage } (G index)).stage }) := by
    refine List.ext_getElem? fun other => ?_
    rw [List.getElem?_mapIdx, List.getElem?_modify, List.getElem?_modify, getElem?_withFeeds]
    by_cases hindex : index = other
    · subst hindex
      simp only [ht, if_true, Option.map_some, Option.map_eq_map]
      refine congrArg some ?_
      rw [Tracker.updateFeed_with_stage]
      exact Tracker.mk_stage_updateFeed t.schedule t.token stage (G index)
    · cases r.trackers[other]? <;> simp [hindex, hother other (Ne.symm hindex)]
  unfold setStage
  rw [← withFeeds_noteEmptied, noteEmptied_withFeeds, noteEmptied_withFeeds]
  unfold withFeeds at htrackers ⊢
  rw [htrackers]

/-- The next stage of a tracker does not depend on what it had in its watch. -/
lemma setStage_withFeeds {index : Nat} (hF : ∀ other, other ≠ index → F other = id) {t : Tracker}
    (ht : r.trackers[index]? = some t) (stage : TrackerStage) :
    (r.withFeeds F).setStage index stage = r.setStage index stage := by
  have hset := withFeeds_setStage (G := fun _ => id) hF ht stage
  rwa [withFeeds_id, Tracker.updateFeed_id, eq_comm] at hset

/-- Trackers that were started later have no watch. -/
lemma withFeeds_onto (hfresh : ∀ t ∈ after.trackers, t.stage = .spawned) (r : Roster)
    (F : Nat → Feed → Feed) : (after.onto r).withFeeds F = after.onto (r.withFeeds F) := by
  have hsame : after.trackers.mapIdx
      (fun index t => t.updateFeed (F (index + r.trackers.length))) = after.trackers := by
    refine List.ext_getElem? fun index => ?_
    rw [List.getElem?_mapIdx]
    cases ht : after.trackers[index]? with
    | none => rfl
    | some t => rw [Option.map_some, t.updateFeed_of_spawned (hfresh t (List.mem_of_getElem? ht))]
  unfold onto withFeeds
  rw [List.mapIdx_append, hsame]

/-- An operation that goes by the books does the same whatever the trackers find in their
watches. -/
lemma change_withFeeds (change : Roster → Change)
    (honto : ∀ after r, change (after.onto r) = ((change after).1.onto r, (change after).2))
    (hkeeps : ∀ r : Roster, r.Keeps (change r)) (r : Roster) (F : Nat → Feed → Feed) :
    change (r.withFeeds F) = ((change r).1.withFeeds F, (change r).2) := by
  have hr := honto r.books r
  have hr' := honto r.books (r.withFeeds F)
  -- the books say which trackers are started, and these have no watch yet
  have hfresh : ∀ t ∈ (change r.books).1.trackers, t.stage = .spawned := by
    obtain ⟨fresh, htrackers, hfresh⟩ := (hkeeps r.books).extends_fst
    rw [htrackers]
    exact hfresh
  rw [books_onto] at hr
  rw [show r.books.onto (r.withFeeds F) = r.withFeeds F from books_onto (r.withFeeds F)] at hr'
  rw [hr', hr, withFeeds_onto hfresh]

end Roster

namespace Watcher

variable {view : View} {r : Roster} {w : Watcher} {cluster : String}

lemma drain_withFeeds (r : Roster) (F : Nat → Feed → Feed) (next : AfterDrain)
    (did : List Occurrence) : drain (r.withFeeds F) next did =
      { drain r next did with roster := (drain r next did).roster.withFeeds F } := by
  have hclose : (r.stopAll.1.withFeeds F).close = r.stopAll.1.close.withFeeds F :=
    Roster.withFeeds_noteEmptied r.stopAll.1 { r.stopAll.1 with closed := true } F
  have hstop : (r.withFeeds F).stopAll = (r.stopAll.1.withFeeds F, r.stopAll.2) := rfl
  unfold drain
  simp only [hstop, hclose]
  rfl

lemma proceed_withFeeds (r : Roster) (F : Nat → Feed → Feed) (stage : WatcherStage) :
    proceed view (r.withFeeds F) cluster stage = (proceed view r cluster stage).map
      fun change => { change with roster := change.roster.withFeeds F } := by
  cases stage with
  | listing =>
    simp only [proceed]
    split
    · rfl
    · exact congrArg some (drain_withFeeds r F _ _)
    · rw [r.change_withFeeds (Roster.enlistAll cluster · _)
        (fun after r => Roster.enlistAll_onto after r cluster _)
        (fun r => r.keeps_enlistAll cluster _)]
      rfl
  | opening cursor =>
    simp only [proceed]
    split
    · rfl
    · exact congrArg some (drain_withFeeds r F _ _)
    · rfl
  | following feed =>
    simp only [proceed]
    split
    · rw [r.change_withFeeds (Roster.consider cluster · _)
        (fun after r => Roster.consider_onto after r cluster _)
        (fun r => r.keeps_consider cluster _)]
      rfl
    · split
      · exact congrArg some (drain_withFeeds r F _ _)
      · rfl
  | _ => rfl

/-- A watcher takes the same step whatever the trackers find in their watches. -/
lemma step_withFeeds (view : View) (r : Roster) (F : Nat → Feed → Feed) (w : Watcher) :
    w.step view (r.withFeeds F) = (w.step view r).map
      fun change => { change with roster := change.roster.withFeeds F } := by
  -- most stages are left by way of the token
  have hgoOn (stage : WatcherStage) :
      (if view.cancelled then some (drain (r.withFeeds F) (.finish none) [])
        else proceed view (r.withFeeds F) w.cluster stage) =
      (if view.cancelled then some (drain r (.finish none) [])
        else proceed view r w.cluster stage).map
          fun change => { change with roster := change.roster.withFeeds F } := by
    split
    · exact congrArg some (drain_withFeeds r F _ _)
    · exact proceed_withFeeds r F stage
  unfold step
  cases w.stage with
  | spawned => rfl
  | draining next count =>
    have hempty : (r.withFeeds F).hasEmptiedSince count = r.hasEmptiedSince count := by
      unfold Roster.hasEmptiedSince
      rw [Roster.isDrained_withFeeds]
      rfl
    simp only [hempty]
    split
    · cases next <;> rfl
    · rfl
  | finished error => rfl
  | _ => exact hgoOn _

end Watcher

namespace System

variable {setup : Setup} {s : System} {task : TaskId}

@[simp] lemma failureLog_withFeeds (s : System) (F : TaskId → Feed → Feed)
    (did : List Occurrence) : (s.withFeeds F).failureLog did = s.failureLog did := by
  unfold failureLog
  rw [isEmpty_watchers_withFeeds]

/-- What a task does is not changed by what the others find in their watches. -/
theorem step_withFeeds {F : TaskId → Feed → Feed} (hF : F task = id) (setup : Setup)
    (s : System) : (s.withFeeds F).step setup task = (s.step setup task).map (·.withFeeds F) := by
  cases task with
  | watcher index =>
    have hw : (s.withFeeds F).watchers[index]? = s.watchers[index]? := by
      rw [getElem?_watchers_withFeeds, hF]
      cases s.watchers[index]? with
      | none => rfl
      | some w => exact congrArg some w.updateFeed_id
    simp only [step, hw]
    cases s.watchers[index]? with
    | none => rfl
    | some w =>
      have hstep : w.step ((s.withFeeds F).view setup Tokens.root) (s.withFeeds F).roster =
        (w.step (s.view setup Tokens.root) s.roster).map
          fun change => { change with roster := change.roster.withFeeds (F ∘ .tracker) } :=
        Watcher.step_withFeeds _ s.roster _ w
      simp only [hstep]
      cases w.step (s.view setup Tokens.root) s.roster with
      | none => rfl
      | some change =>
        have hwatchers : (s.withFeeds F).watchers.modify index ({ · with stage := change.stage }) =
            (s.watchers.modify index ({ · with stage := change.stage })).mapIdx
              fun index w => w.updateFeed (F (.watcher index)) :=
          (mapIdx_modify s.watchers fun w => by rw [hF, Watcher.updateFeed_id,
            Watcher.updateFeed_id]).symm
        simp only [Option.map_some, hwatchers]
        rfl
  | tracker index =>
    have ht : (s.withFeeds F).roster.trackers[index]? = s.roster.trackers[index]? := by
      rw [getElem?_trackers_withFeeds, hF]
      cases s.roster.trackers[index]? with
      | none => rfl
      | some t => exact congrArg some t.updateFeed_id
    have hF : (F ∘ TaskId.tracker) index = id := hF
    simp only [step, ht]
    cases s.roster.trackers[index]? with
    | none => rfl
    | some t =>
      have hstep : t.step ((s.withFeeds F).view setup t.token) = t.step (s.view setup t.token) :=
        rfl
      simp only [hstep]
      cases t.step (s.view setup t.token) with
      | none => rfl
      | some outcome =>
        have htrackers (stage : TrackerStage) :
            (s.withFeeds F).roster.trackers.modify index ({ · with stage }) =
              (s.roster.trackers.modify index ({ · with stage })).mapIdx
                fun index t => t.updateFeed (F (.tracker index)) :=
          (mapIdx_modify s.roster.trackers fun t => by
            rw [hF, Tracker.updateFeed_id, Tracker.updateFeed_id]).symm
        have hroster (stage : TrackerStage) : (s.withFeeds F).roster.setStage index stage =
            (s.roster.setStage index stage).withFeeds (F ∘ .tracker) := by
          refine Eq.trans ?_ (Roster.withFeeds_noteEmptied s.roster _ _)
          unfold Roster.setStage
          rw [htrackers]
          rfl
        simp only [Option.map_some, hroster, failureLog_withFeeds]
        rfl

/-- If a tracker takes the same step with its watch in two states, up to the state of the watch
after that, then so does the system. -/
lemma step_feedOf_tracker {index : Nat} {f g h : Feed → Feed}
    (hstep : ∀ t, s.roster.trackers[index]? = some t →
      (t.updateFeed f).step (s.view setup t.token) =
        ((t.updateFeed g).step (s.view setup t.token)).map fun outcome =>
          ((Tracker.updateFeed { t with stage := outcome.1 } h).stage, outcome.2)) :
    (s.withFeeds (feedOf (.tracker index) f)).step setup (.tracker index) =
      ((s.withFeeds (feedOf (.tracker index) g)).step setup (.tracker index)).map
        (·.withFeeds (feedOf (.tracker index) h)) := by
  simp only [step, getElem?_trackers_withFeeds, feedOf_self]
  cases ht : s.roster.trackers[index]? with
  | none => rfl
  | some t =>
    have htoken (f : Feed → Feed) : (t.updateFeed f).token = t.token :=
      congrArg Prod.snd (t.origin_updateFeed f)
    have hview (f : Feed → Feed) : (s.withFeeds (feedOf (.tracker index) f)).view setup t.token =
      s.view setup t.token := rfl
    simp only [Option.map_some, htoken, hview, hstep t ht]
    cases (t.updateFeed g).step (s.view setup t.token) with
    | none => rfl
    | some outcome =>
      have hother (f : Feed → Feed) (other : Nat) (hne : other ≠ index) :
          (feedOf (.tracker index) f ∘ TaskId.tracker) other = id :=
        if_neg fun heq => hne (TaskId.tracker.inj heq)
      have hwatchers (f : Feed → Feed) (ws : List Watcher) : ws.mapIdx (fun place w =>
          w.updateFeed (feedOf (.tracker index) f (.watcher place))) = ws :=
        Watcher.mapIdx_updateFeed_id ws
      have hset (f : Feed → Feed) (stage : TrackerStage) :
          (s.withFeeds (feedOf (.tracker index) f)).roster.setStage index stage =
            s.roster.setStage index stage :=
        Roster.setStage_withFeeds (hother f) ht stage
      have hfeed := Roster.withFeeds_setStage (F := fun _ => id)
        (fun other hne => (hother h other hne).symm) ht outcome.1
      rw [Roster.withFeeds_id] at hfeed
      simp only [Option.map_some, failureLog_withFeeds, hset]
      simp only [Function.comp_apply, feedOf_self] at hfeed
      rw [← hfeed]
      simp only [withFeeds, record, hwatchers]

/-- If a watcher takes the same step with its watch in two states, up to the state of the watch
after that, then so does the system. -/
lemma step_feedOf_watcher {index : Nat} {f g h : Feed → Feed}
    (hstep : ∀ w, s.watchers[index]? = some w →
      (w.updateFeed f).step (s.view setup Tokens.root) s.roster =
        ((w.updateFeed g).step (s.view setup Tokens.root) s.roster).map fun change =>
          { change with stage := (Watcher.updateFeed { w with stage := change.stage } h).stage }) :
    (s.withFeeds (feedOf (.watcher index) f)).step setup (.watcher index) =
      ((s.withFeeds (feedOf (.watcher index) g)).step setup (.watcher index)).map
        (·.withFeeds (feedOf (.watcher index) h)) := by
  have hroster (f : Feed → Feed) (r : Roster) :
      r.withFeeds (feedOf (.watcher index) f ∘ TaskId.tracker) = r := by
    refine Eq.trans (congrArg r.withFeeds ?_) r.withFeeds_id
    funext place
    have hne : TaskId.tracker place ≠ .watcher index := by simp
    show feedOf (.watcher index) f (.tracker place) = id
    exact if_neg hne
  simp only [step, getElem?_watchers_withFeeds, feedOf_self]
  cases hw : s.watchers[index]? with
  | none => rfl
  | some w =>
    have hview (f : Feed → Feed) :
        (s.withFeeds (feedOf (.watcher index) f)).view setup Tokens.root =
          s.view setup Tokens.root := rfl
    have hsame (f : Feed → Feed) : (s.withFeeds (feedOf (.watcher index) f)).roster = s.roster :=
      hroster f s.roster
    simp only [Option.map_some, hview, hsame, hstep w hw]
    cases (w.updateFeed g).step (s.view setup Tokens.root) s.roster with
    | none => rfl
    | some change =>
      have hwatchers : ((s.withFeeds (feedOf (.watcher index) f)).watchers.modify index
            ({ · with stage := (Watcher.updateFeed { w with stage := change.stage } h).stage })) =
          ((s.withFeeds (feedOf (.watcher index) g)).watchers.modify index
            ({ · with stage := change.stage })).mapIdx
              fun place w => w.updateFeed (feedOf (.watcher index) h (.watcher place)) := by
        refine List.ext_getElem? fun place => ?_
        simp only [List.getElem?_mapIdx, List.getElem?_modify, getElem?_watchers_withFeeds]
        by_cases hplace : index = place
        · subst hplace
          simp only [hw, feedOf_self, if_true, Option.map_some, Option.map_eq_map,
            Watcher.cluster_updateFeed]
          exact congrArg some (Watcher.mk_stage_updateFeed w.cluster change.stage h).symm
        · have hne : ¬ TaskId.watcher place = TaskId.watcher index :=
            fun heq => hplace (TaskId.watcher.inj heq).symm
          simp only [feedOf, if_neg hne, hplace, if_false]
          cases s.watchers[place]? <;> simp [Watcher.updateFeed_id]
      simp only [Option.map_some, hwatchers]
      simp only [withFeeds, record, hroster]

end System

end BackupMonitor
