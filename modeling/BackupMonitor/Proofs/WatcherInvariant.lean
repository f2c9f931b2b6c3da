import BackupMonitor.Proofs.TrackerMove

/-!
# What the only watcher keeps

`Watcher.IsKept P` says of a property of a stage of a watcher, the roster and what the watcher did
that it is kept by whatever can happen to them: the watcher takes a step, a tracker moves on,
something comes in over a watch, or the root is cancelled. `IsKept.leadsTo` draws from it that the
property is kept along a run, and `IsKept.watcherRun` that it holds in every run of a watcher if it
holds at the start.
-/

namespace BackupMonitor

namespace Watcher

/-- Everything that happens while one watcher of the cluster runs keeps the property. -/
structure IsKept (cluster : String) (P : WatcherStage → Roster → List Occurrence → Prop) : Prop
    where
  /-- It is kept by the steps of the watcher. -/
  watcher : ∀ {view r stage change past}, Step view r cluster stage change → P stage r past →
    P change.stage change.roster (past ++ change.did)
  /-- It is kept by a tracker that moves on. -/
  tracker : ∀ {r stage past index t}, r.trackers[index]? = some t → t.isFinished = false →
    P stage r past → ∀ next, P stage (r.setStage index next) past
  /-- It is kept by what comes in over the watches of the trackers. -/
  backups : ∀ {r stage past}, P stage r past → ∀ F, P stage (r.withFeeds F) past
  /-- It is kept by what comes in over the watch of the watcher. -/
  schedules : ∀ {r feed past}, P (.following feed) r past → ∀ f : Feed → Feed,
    P (.following (f feed)) r past
  /-- It is kept by cancelling the root. -/
  cancel : ∀ {r stage past}, P stage r past →
    P stage { r with tokens := r.tokens.cancel Tokens.root } past

/-- The property holds of the only watcher of a system, which is for the cluster. -/
def Alone (cluster : String) (P : WatcherStage → Roster → List Occurrence → Prop) (s : System) :
    Prop :=
  ∃ w, s.watchers = [w] ∧ w.cluster = cluster ∧
    P w.stage s.roster (s.trace.ofTask (.watcher 0))

namespace IsKept

variable {cluster : String} {P : WatcherStage → Roster → List Occurrence → Prop} {setup : Setup}
  {s next : System}

lemma apply (hkept : IsKept cluster P) (h : Alone cluster P s) {input : Input}
    (hrole : input.role? = none) : Alone cluster P (s.apply input) := by
  obtain ⟨w, hw, hcluster, hp⟩ := h
  have hfeeds (F : TaskId → Feed → Feed) : Alone cluster P (s.withFeeds F) := by
    refine ⟨w.updateFeed (F (.watcher 0)), by simp [System.withFeeds, hw], by simp [hcluster],
      hkept.backups ?_ _⟩
    unfold updateFeed
    split
    next feed hstage => exact hkept.schedules (hstage ▸ hp) _
    next => exact hp
  cases input with
  | start role => cases hrole
  | event => exact hfeeds _
  | close => exact hfeeds _
  | arrive => exact hfeeds _
  | cancel => exact ⟨w, hw, hcluster, hkept.cancel hp⟩
  | items => exact ⟨w, hw, hcluster, hp⟩
  | fault => exact ⟨w, hw, hcluster, hp⟩
  | hold => exact ⟨w, hw, hcluster, hp⟩
  | holdSinks => exact ⟨w, hw, hcluster, hp⟩

lemma step (hkept : IsKept cluster P) (h : Alone cluster P s) {task : TaskId}
    (hstep : s.step setup task = some next) : Alone cluster P next := by
  obtain ⟨w, hw, rfl, hp⟩ := h
  cases task with
  | watcher index =>
    obtain ⟨change, rfl, hchange, rfl⟩ := System.step_watcher_of_alone hw hstep
    refine ⟨_, rfl, rfl, ?_⟩
    rw [System.ofTask_append_map, if_pos rfl]
    exact hkept.watcher (step_cases hchange) hp
  | tracker index =>
    obtain ⟨t, stage, did, ht, hdid, rfl⟩ := System.step_tracker_eq_some hstep
    refine ⟨w, hw, rfl, ?_⟩
    rw [System.ofTask_append_map, if_neg (by simp), List.append_nil]
    exact hkept.tracker ht (Tracker.step_cases hdid).isFinished_eq_false hp stage

/-- What is kept is kept along a run that starts no task. -/
theorem leadsTo (hkept : IsKept cluster P) (hlater : System.LeadsTo setup s next)
    (h : Alone cluster P s) : Alone cluster P next :=
  hlater.invariant (fun _ _ hrole h => hkept.apply h hrole)
    (fun _ _ _ h hstep => hkept.step h hstep) h

/-- What is kept and holds of a new watcher holds in every run of a watcher. -/
theorem watcherRun (hkept : IsKept cluster P)
    (start : ∀ r : Roster, r.trackers = [] → r.registry = ∅ → P .spawned r [])
    (h : System.WatcherRun setup cluster s) : Alone cluster P s := by
  refine h.induct (fun s hidle => ?_) (fun _ _ hrole h => hkept.apply h hrole)
    (fun _ _ _ h hstep => hkept.step h hstep)
  refine ⟨{ cluster }, by simp [System.start, hidle.watchers], rfl, ?_⟩
  have htrace : (s.start (.watcher cluster)).trace = [] := hidle.trace
  rw [htrace]
  exact start s.roster hidle.trackers hidle.registry

end IsKept

/-- What holds of the only watcher, told of the watcher that is there. -/
lemma Alone.of_watchers_eq {cluster : String}
    {P : WatcherStage → Roster → List Occurrence → Prop} {s : System} (h : Alone cluster P s)
    {w : Watcher} (hw : s.watchers = [w]) : P w.stage s.roster (s.trace.ofTask (.watcher 0)) := by
  obtain ⟨v, hv, -, hp⟩ := h
  obtain rfl := List.singleton_inj.mp (hv.symm.trans hw)
  exact hp

end Watcher

end BackupMonitor
