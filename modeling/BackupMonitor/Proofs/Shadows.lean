import BackupMonitor.Proofs.Orders
import BackupMonitor.Proofs.WatcherMirror

/-!
# A system without the other schedules

A system shadows another one if it is as that one would be without other schedules, in all that is
about the schedule (`System.Shadows`). The other one is followed step by step: what a task does
there, the same task does where the other schedules are left out, or it has nothing to do with the
schedule (`System.Shadows.exists_of_step`). What comes in is followed as well, by what is left of it
(`System.Shadows.apply`), or by nothing (`System.Shadows.apply_of_none`).
-/

namespace BackupMonitor

open Occurrence

/-! ## The reports of the trackers of a schedule -/

/-- The report that a tracker of the schedule hands to a sink: the place of the tracker among those
of the schedule, the place of the sink, and the report. -/
def Roster.reportBy? (r : Roster) (name : String) (entry : Entry) : Option (Nat × Nat × Report) :=
  match entry.task with
  | .watcher _ => none
  | .tracker index =>
    if (r.origins[index]?).any (·.1 == name) then
      entry.what.handed?.map (r.rank name index, ·)
    else none

/-- What the trackers of a schedule handed to the sinks. -/
def System.reportsFor (s : System) (name : String) : List (Nat × Nat × Report) :=
  s.trace.filterMap (s.roster.reportBy? name)

namespace Roster

variable {name : String} {r after : Roster} {index : Nat}

/-- Trackers that are started later do not matter. -/
lemma reportBy?_of_append {fresh : List (String × Token)}
    (horigins : after.origins = r.origins ++ fresh) {entry : Entry}
    (hentry : ∀ index, entry.task = .tracker index → index < r.origins.length) :
    after.reportBy? name entry = r.reportBy? name entry := by
  obtain ⟨task, what⟩ := entry
  cases task with
  | watcher => rfl
  | tracker index =>
    have hlt : index < r.origins.length := hentry index rfl
    simp only [reportBy?, rank, horigins, List.getElem?_append_left hlt,
      List.take_append_of_le_length hlt.le]

/-- What one tracker handed to the sinks. -/
lemma filterMap_reportBy?_tracker {t : Tracker} (ht : r.trackers[index]? = some t)
    (did : List Occurrence) :
    (did.map (Entry.mk (.tracker index))).filterMap (r.reportBy? name) =
      if t.schedule = name then (did.filterMap handed?).map (r.rank name index, ·) else [] := by
  have horigin : r.origins[index]? = some (t.schedule, t.token) := by
    unfold origins
    rw [List.getElem?_map, ht]
    rfl
  rw [List.filterMap_map]
  split
  next hschedule =>
    rw [List.map_filterMap]
    refine List.filterMap_congr fun what _ => ?_
    simp [reportBy?, horigin, hschedule]
  next hschedule =>
    refine List.filterMap_eq_nil_iff.mpr fun what _ => ?_
    simp [reportBy?, horigin, hschedule]

end Roster

namespace System

variable {setup : Setup} {cluster name : String} {s s' next next' t : System} {input : Input}
  {index before : Nat}

/-- What was handed to the sinks before does not change. -/
lemma reportsFor_of_append (hreach : Reachable setup s) {fresh : List (String × Token)}
    {more : Trace} (horigins : next.roster.origins = s.roster.origins ++ fresh)
    (htrace : next.trace = s.trace ++ more) :
    next.reportsFor name = s.reportsFor name ++ more.filterMap (next.roster.reportBy? name) := by
  unfold reportsFor
  rw [htrace, List.filterMap_append]
  congr 1
  refine List.filterMap_congr fun entry hentry => Roster.reportBy?_of_append horigins ?_
  intro index htask
  by_contra hlt
  -- a tracker that was not started did not do anything
  have hnone : s.trace.ofTask (.tracker index) = [] :=
    hreach.ofTask_eq_nil (by simpa [Roster.origins] using hlt)
  unfold Trace.ofTask at hnone
  rw [List.map_eq_nil_iff, List.filter_eq_nil_iff] at hnone
  exact hnone entry hentry (beq_iff_eq.mpr htask)

/-- What a step of a tracker adds to the reports of a schedule. -/
lemma exists_reportsFor_of_tracker_step (hreach : Reachable setup s)
    (hstep : s.step setup (.tracker index) = some next) (name : String) :
    ∃ u stage did, s.roster.trackers[index]? = some u ∧
      u.step (s.view setup u.token) = some (stage, did) ∧
      next.roster = s.roster.setStage index stage ∧ next.watchers = s.watchers ∧
      next.reportsFor name = s.reportsFor name ++
        if u.schedule = name then (did.filterMap handed?).map (s.roster.rank name index, ·)
        else [] := by
  obtain ⟨u, stage, did, hu, hdid, rfl⟩ := step_tracker_eq_some hstep
  obtain ⟨lines, hlines⟩ := failureLog_eq_logged s did
  refine ⟨u, stage, did, hu, hdid, rfl, rfl, ?_⟩
  have horigins : (s.roster.setStage index stage).origins = s.roster.origins ++ [] := by
    rw [Roster.origins_setStage, List.append_nil]
  have hu' : (s.roster.setStage index stage).trackers[index]? = some { u with stage } := by
    simp [hu]
  rw [reportsFor_of_append hreach horigins rfl]
  congr 1
  refine (Roster.filterMap_reportBy?_tracker hu' _).trans ?_
  rw [hlines, List.filterMap_append, filterMap_handed?_logged, List.append_nil]
  unfold Roster.rank
  rw [horigins, List.append_nil]

/-- A watcher makes no reports. -/
lemma reportsFor_of_watcher_step (hrun : WatcherRun setup cluster s)
    (hstep : s.step setup (.watcher index) = some next) (name : String) :
    next.reportsFor name = s.reportsFor name := by
  obtain ⟨w, change, -, -, hchange, hroster, -, htrace, -⟩ := hrun.exists_of_watcher_step hstep
  obtain ⟨fresh, htrackers, -⟩ := (Watcher.step_cases hchange).extends_roster
  have horigins : next.roster.origins = s.roster.origins ++ fresh.map Tracker.origin := by
    unfold Roster.origins
    rw [hroster, htrackers, List.map_append]
  have hnothing : (change.did.map (Entry.mk (.watcher 0))).filterMap
      (next.roster.reportBy? name) = [] := by
    rw [List.filterMap_map, List.filterMap_eq_nil_iff]
    exact fun _ _ => rfl
  rw [reportsFor_of_append hrun.reachable horigins htrace, hnothing, List.append_nil]

/-- What comes in over the watches makes no reports. -/
lemma reportsFor_withFeeds (s : System) (F : TaskId → Feed → Feed) (name : String) :
    (s.withFeeds F).reportsFor name = s.reportsFor name := by
  show s.trace.filterMap ((s.roster.withFeeds _).reportBy? name) = _
  unfold reportsFor Roster.reportBy? Roster.rank
  rw [Roster.origins_withFeeds]

/-- What is listed does not change what the server has. -/
lemma narrows_serverAfter {server server' : Server}
    (h : server.schedules.Narrows name server'.schedules) (did did' : List Occurrence) :
    (serverAfter server did).schedules.Narrows name (serverAfter server' did').schedules := by
  have hshelf (server : Server) (did : List Occurrence) :
      ∃ listed, (serverAfter server did).schedules = { server.schedules with listed } := by
    unfold serverAfter
    induction did generalizing server with
    | nil => exact ⟨_, rfl⟩
    | cons what did ih =>
      rw [List.foldl_cons]
      cases what with
      | listed kind listing =>
        obtain ⟨listed, hrest⟩ :=
          ih (server.update kind fun shelf => { shelf with listed := shelf.listed + 1 })
        refine ⟨listed, hrest.trans ?_⟩
        cases kind <;> rfl
      | _ => exact ih server
  obtain ⟨listed, hserver⟩ := hshelf server did
  obtain ⟨listed', hserver'⟩ := hshelf server' did'
  rw [hserver, hserver']
  exact ⟨h.lists, h.watches, h.items⟩

/-! ## Step by step -/

/-- The system `s'` is the system `s` as it is without other schedules, in all that is about the
schedule. -/
structure Shadows (setup : Setup) (name : String) (before : Nat) (s s' : System) : Prop where
  /-- The server has the same but for the other schedules. -/
  shelf : s.server.schedules.Narrows name s'.server.schedules
  /-- Backups and sinks are as they are. -/
  climate : s.climate setup = s'.climate setup
  /-- The watcher is where it would be without events about other schedules. -/
  watcher : ∃ cluster stage stage', s.watchers = [{ cluster, stage }] ∧
    s'.watchers = [{ cluster, stage := stage' }] ∧ stage.Narrows name stage'
  /-- The trackers of the schedule are the same. -/
  roster : s.roster.Mirrors name before s'.roster
  /-- They handed out the same. -/
  reports : s.reportsFor name = s'.reportsFor name

namespace Shadows

/-- Trackers have taken steps that are the same for the schedule. -/
lemma of_surroundings (h : Shadows setup name before s s') (hsame : SameSurroundings setup s next)
    (hsame' : SameSurroundings setup s' next') (hwatchers : next.watchers = s.watchers)
    (hwatchers' : next'.watchers = s'.watchers)
    (hroster : next.roster.Mirrors name before next'.roster)
    (hreports : next.reportsFor name = next'.reportsFor name) :
    Shadows setup name before next next' where
  shelf := by
    rw [← hsame.schedules, ← hsame'.schedules]
    exact h.shelf
  climate := by rw [← hsame.climate, ← hsame'.climate, h.climate]
  watcher := by
    rw [hwatchers, hwatchers']
    exact h.watcher
  roster := hroster
  reports := hreports

/-- A step of a tracker is about another schedule, or it is taken without the others as well, or it
has nothing to report. -/
lemma exists_of_tracker_step (h : Shadows setup name before s s')
    (hrun : WatcherRun setup cluster s) (hrun' : WatcherRun setup cluster s')
    (hstep : s.step setup (.tracker index) = some next) :
    Shadows setup name before next s' ∨ ∃ task next', s'.step setup task = some next' ∧
      Shadows setup name before next next' := by
  have hsame := surroundings_of_tracker_step hstep
  obtain ⟨u, stage, did, hu, hdid, hroster, hwatchers, hreports⟩ :=
    exists_reportsFor_of_tracker_step hrun.reachable hstep name
  by_cases hschedule : u.schedule = name
  · obtain ⟨u', hplace, hnarrows⟩ :=
      forall₂_getElem? h.roster.stages (Roster.own_rank hu hschedule)
    obtain ⟨index', hu', hrank⟩ := Roster.exists_rank hplace
    have hschedule' : u'.schedule = name := (Roster.mem_own.mp (List.mem_of_getElem? hplace)).2
    have hcancelled := h.roster.isCancelled_eq (Roster.own_rank hu hschedule) hplace
    have hdoes := Tracker.step_cases hdid
    rw [hschedule] at hdoes
    rw [if_pos hschedule] at hreports
    rcases hdoes.narrows (s'.view setup u'.token) h.climate hcancelled hnarrows u'.token with
      ⟨hstays, hnothing⟩ | ⟨stage', did', hdid', hmoves, hhanded⟩
    · rw [hnothing, List.map_nil, List.append_nil] at hreports
      exact .inl (h.of_surroundings hsame (.refl setup s') hwatchers rfl
        (hroster ▸ h.roster.setStage_self hu hschedule hplace hstays) (hreports.trans h.reports))
    · obtain ⟨next', hstep'⟩ : ∃ next', s'.step setup (.tracker index') = some next' := by
        rw [← hschedule'] at hdid'
        simp only [step, hu', hdid']
        exact ⟨_, rfl⟩
      obtain ⟨v, other, more, hv, hmore, hroster', hwatchers', hreports'⟩ :=
        exists_reportsFor_of_tracker_step hrun'.reachable hstep' name
      obtain rfl := Option.some.inj (hu'.symm.trans hv)
      rw [← hschedule', hmore] at hdid'
      obtain ⟨rfl, rfl⟩ := Prod.mk.inj (Option.some.inj hdid')
      rw [if_pos hschedule', hrank, ← hhanded, ← h.reports, ← hreports] at hreports'
      refine .inr ⟨_, next', hstep', h.of_surroundings hsame (surroundings_of_tracker_step hstep')
        hwatchers hwatchers' ?_ hreports'.symm⟩
      rw [hroster, hroster']
      exact h.roster.setStage hu hu' hschedule hschedule' hrank hmoves
  · rw [if_neg hschedule, List.append_nil] at hreports
    exact .inl (h.of_surroundings hsame (.refl setup s') hwatchers rfl
      (hroster ▸ h.roster.setStage_other hu hschedule stage) (hreports.trans h.reports))

/-- A step of the watcher is about another schedule, or it is taken without the others as well,
unless the watch of the watcher ends. -/
lemma exists_of_watcher_step (h : Shadows setup name before s s')
    (hrun : WatcherRun setup cluster s) (hrun' : WatcherRun setup cluster s')
    (hstep : s.step setup (.watcher index) = some next)
    (hopen : ⟨.watcher 0, .sawEnd .scheduledBackup⟩ ∉ next.since s) :
    Shadows setup name before next s' ∨ ∃ task next', s'.step setup task = some next' ∧
      Shadows setup name before next next' := by
  have hreports := reportsFor_of_watcher_step hrun hstep name
  obtain ⟨w, change, hw, hwnext, hchange, hroster, hserver, htrace, hclimate, -⟩ :=
    hrun.exists_of_watcher_step hstep
  obtain ⟨cluster, stage, stage', hstages, hstages', hnarrows⟩ := h.watcher
  obtain rfl := List.singleton_inj.mp (hw.symm.trans hstages)
  rcases (Watcher.step_cases hchange).mirrors (s'.view setup Tokens.root) h.shelf h.roster.root
    hnarrows h.roster (hrun.awaits hstages) (hrun'.awaits hstages') with
    hend | ⟨hstays, hmirrors⟩ | ⟨change', hchange', hmoves, hmirrors⟩
  · -- then its watch has ended
    refine absurd ?_ hopen
    unfold since
    rw [htrace, List.drop_left]
    exact List.mem_map_of_mem hend
  · refine .inl ⟨?_, hclimate.trans h.climate, ⟨_, _, _, hwnext, hstages', hstays⟩,
      hroster ▸ hmirrors, hreports.trans h.reports⟩
    rw [hserver]
    exact narrows_serverAfter h.shelf change.did []
  · obtain ⟨next', hstep'⟩ : ∃ next', s'.step setup (.watcher 0) = some next' := by
      simp only [step, hstages', List.getElem?_cons_zero, hchange']
      exact ⟨_, rfl⟩
    have hreports' := reportsFor_of_watcher_step hrun' hstep' name
    obtain ⟨w', after', hw', hwnext', hafter', hroster', hserver', -, hclimate', -⟩ :=
      hrun'.exists_of_watcher_step hstep'
    obtain rfl := List.singleton_inj.mp (hw'.symm.trans hstages')
    obtain rfl := Option.some.inj (hafter'.symm.trans hchange')
    refine .inr ⟨_, next', hstep', ?_, ?_, ⟨_, _, _, hwnext, hwnext', hmoves⟩, ?_, ?_⟩
    · rw [hserver, hserver']
      exact narrows_serverAfter h.shelf _ _
    · rw [hclimate, hclimate', h.climate]
    · rw [hroster, hroster']
      exact hmirrors
    · rw [hreports, hreports', h.reports]

/-- A step of any task is about another schedule, or it is taken without the others as well, or it
has nothing to report. -/
theorem exists_of_step (h : Shadows setup name before s s') (hrun : WatcherRun setup cluster s)
    (hrun' : WatcherRun setup cluster s') {task : TaskId} (hstep : s.step setup task = some next)
    (hopen : ⟨.watcher 0, .sawEnd .scheduledBackup⟩ ∉ next.since s) :
    Shadows setup name before next s' ∨ ∃ task next', s'.step setup task = some next' ∧
      Shadows setup name before next next' := by
  cases task with
  | watcher index => exact h.exists_of_watcher_step hrun hrun' hstep hopen
  | tracker index => exact h.exists_of_tracker_step hrun hrun' hstep

/-! ## At rest -/

/-- Where no task can take a step, all that is left to do without the others is that the watcher
finishes. -/
lemma of_step (h : Shadows setup name before s s') (hrun' : WatcherRun setup cluster s')
    (hrest : s.isAtRest setup = true) {task : TaskId} (hstep' : s'.step setup task = some next') :
    Shadows setup name before s next' := by
  rw [isAtRest_iff] at hrest
  cases task with
  | watcher index =>
    have hreports' := reportsFor_of_watcher_step hrun' hstep' name
    obtain ⟨w', change, hw', hwnext', hchange, hroster', hserver', -, hclimate', -⟩ :=
      hrun'.exists_of_watcher_step hstep'
    obtain ⟨cluster, stage, stage', hstages, hstages', hnarrows⟩ := h.watcher
    obtain rfl := List.singleton_inj.mp (hw'.symm.trans hstages')
    have hnone : Watcher.step (s.view setup Tokens.root) s.roster { cluster, stage } = none := by
      have hwatcher := hrest (.watcher 0)
      cases hstep : Watcher.step (s.view setup Tokens.root) s.roster { cluster, stage } with
      | none => rfl
      | some change => simp [step, hstages, hstep] at hwatcher
    obtain ⟨hstays, hmirrors⟩ :=
      Watcher.narrows_of_step_eq_none hnone hchange h.shelf h.roster.root hnarrows h.roster
    refine ⟨?_, h.climate.trans hclimate'.symm, ⟨_, _, _, hstages, hwnext', hstays⟩, ?_,
      h.reports.trans hreports'.symm⟩
    · rw [hserver']
      exact narrows_serverAfter h.shelf [] _
    · rw [hroster']
      exact hmirrors
  | tracker index =>
    obtain ⟨u', stage, did, hu', hdid, -⟩ := step_tracker_eq_some hstep'
    by_cases hschedule : u'.schedule = name
    · obtain ⟨u, hplace, hnarrows⟩ :=
        forall₂_getElem? h.roster.stages.flip (Roster.own_rank hu' hschedule)
      obtain ⟨other, hu, -⟩ := Roster.exists_rank hplace
      have hcancelled := h.roster.isCancelled_eq hplace (Roster.own_rank hu' hschedule)
      have hnone : u.step (s.view setup u.token) = none :=
        Tracker.advance_eq_none_iff.mp (advance_eq_none hu (hrest (.tracker other)))
      rw [Tracker.step_eq_none_of_narrows hnone (s'.view setup u'.token) h.climate hcancelled
        hnarrows] at hdid
      cases hdid
    · have hfinished := h.roster.others u' (List.mem_of_getElem? hu') hschedule
      rw [(Tracker.step_cases hdid).isFinished_eq_false] at hfinished
      cases hfinished

/-- Where no task can take a step, the others are left out in a system that comes to rest too. -/
lemma exists_settles (h : Shadows setup name before s s') (hrun' : WatcherRun setup cluster s')
    (hrest : s.isAtRest setup = true) :
    ∃ t', Settles setup s' t' ∧ Shadows setup name before s t' := by
  obtain ⟨t', order, hplay, hrest'⟩ := System.exists_settles setup s'
  refine ⟨t', ⟨order, hplay, hrest'⟩, ?_⟩
  induction order generalizing s' with
  | nil =>
    obtain rfl := Option.some.inj hplay
    exact h
  | cons task order ih =>
    obtain ⟨mid', hstep', hmore'⟩ := exists_of_play_step hplay
    exact ih (h.of_step hrun' hrest hstep') (hrun'.leadsTo (.of_step hstep')) hmore'

/-- Whatever the order of the steps is, there is one for the system without the others. -/
theorem exists_of_settles (h : Shadows setup name before s s') (hrun : WatcherRun setup cluster s)
    (hrun' : WatcherRun setup cluster s') (hsettles : Settles setup s t)
    (hopen : ⟨.watcher 0, .sawEnd .scheduledBackup⟩ ∉ t.since s) :
    ∃ t', Settles setup s' t' ∧ Shadows setup name before t t' := by
  obtain ⟨order, hplay, hrest⟩ := hsettles
  induction order generalizing s s' with
  | nil =>
    obtain rfl := Option.some.inj hplay
    exact h.exists_settles hrun' hrest
  | cons task order ih =>
    obtain ⟨mid, hstep, hmore⟩ := exists_of_play_step hplay
    have hlater : LeadsTo setup mid t := Settles.leadsTo ⟨order, hmore, hrest⟩
    rw [(LeadsTo.of_step hstep).since_trans hlater, List.mem_append, not_or] at hopen
    have hmid := hrun.leadsTo (.of_step hstep)
    rcases h.exists_of_step hrun hrun' hstep hopen.1 with hstays | ⟨task', mid', hstep', hmoves⟩
    · exact ih hstays hmid hrun' hopen.2 hmore
    · obtain ⟨t', hsettles', hshadows⟩ :=
        ih hmoves hmid (hrun'.leadsTo (.of_step hstep')) hopen.2 hmore
      exact ⟨t', hsettles'.of_step hstep', hshadows⟩

/-! ## What comes in -/

/-- What comes in over the watch of the watcher is narrowed. -/
lemma withFeeds_watcher (h : Shadows setup name before s s') {F F' : TaskId → Feed → Feed}
    (hnone : ∀ index, F (.tracker index) = id) (hnone' : ∀ index, F' (.tracker index) = id)
    (hF : ∀ feed, (F (.watcher 0) feed).only name .scheduledBackup =
      F' (.watcher 0) (feed.only name .scheduledBackup)) :
    Shadows setup name before (s.withFeeds F) (s'.withFeeds F') := by
  have hreports : (s.withFeeds F).reportsFor name = (s'.withFeeds F').reportsFor name := by
    rw [reportsFor_withFeeds, reportsFor_withFeeds, h.reports]
  rw [withFeeds_of_tracker_eq_id hnone, withFeeds_of_tracker_eq_id hnone'] at hreports ⊢
  obtain ⟨cluster, stage, stage', hstages, hstages', hnarrows⟩ := h.watcher
  have hwatchers {s : System} {stage : WatcherStage} (F : TaskId → Feed → Feed)
      (hstages : s.watchers = [{ cluster, stage }]) :
      (s.watchers.mapIdx fun index w => w.updateFeed (F (.watcher index))) =
        [{ cluster, stage := (Watcher.updateFeed { cluster, stage } (F (.watcher 0))).stage }] := by
    rw [hstages]
    cases stage <;> rfl
  exact ⟨h.shelf, h.climate, ⟨cluster, _, _, hwatchers F hstages, hwatchers F' hstages',
    WatcherStage.Narrows.updateFeed hF hnarrows⟩, h.roster, hreports⟩

/-- What comes in over the watches of the trackers is narrowed, one by one. -/
lemma withFeeds_trackers (h : Shadows setup name before s s') {F F' : TaskId → Feed → Feed}
    (hnone : ∀ index, F (.watcher index) = id) (hnone' : ∀ index, F' (.watcher index) = id)
    (hF : ∀ (index index' : Nat), s.roster.schedules[index]? = some name →
      s'.roster.schedules[index']? = some name →
      s'.roster.rank name index' = s.roster.rank name index →
      ∀ feed, (F (.tracker index) feed).only name .backup =
        F' (.tracker index') (feed.only name .backup)) :
    Shadows setup name before (s.withFeeds F) (s'.withFeeds F') := by
  have hreports : (s.withFeeds F).reportsFor name = (s'.withFeeds F').reportsFor name := by
    rw [reportsFor_withFeeds, reportsFor_withFeeds, h.reports]
  rw [withFeeds_of_watcher_eq_id hnone, withFeeds_of_watcher_eq_id hnone'] at hreports ⊢
  exact ⟨h.shelf, h.climate, h.watcher, h.roster.withFeeds hF, hreports⟩

/-- What comes in over the watches of a kind is narrowed. -/
lemma withFeeds_feedsOf (h : Shadows setup name before s s') (kind : ResourceKind)
    {f f' : Feed → Feed} (hf : ∀ feed, (f feed).only name kind = f' (feed.only name kind)) :
    Shadows setup name before (s.withFeeds (feedsOf kind f)) (s'.withFeeds (feedsOf kind f')) := by
  cases kind with
  | scheduledBackup => exact h.withFeeds_watcher (fun _ => rfl) (fun _ => rfl) hf
  | backup => exact h.withFeeds_trackers (fun _ => rfl) (fun _ => rfl) fun _ _ _ _ _ => hf

/-- What comes in over the watch of one watcher is narrowed. -/
lemma withFeeds_watcher_feedOf (h : Shadows setup name before s s') (index : Nat)
    {f f' : Feed → Feed}
    (hf : ∀ feed, (f feed).only name .scheduledBackup = f' (feed.only name .scheduledBackup)) :
    Shadows setup name before (s.withFeeds (feedOf (.watcher index) f))
      (s'.withFeeds (feedOf (.watcher index) f')) := by
  refine h.withFeeds_watcher (fun _ => rfl) (fun _ => rfl) fun feed => ?_
  unfold feedOf
  split
  · exact hf feed
  · rfl

/-- What comes in over the watch of one tracker is narrowed. -/
lemma withFeeds_tracker_feedOf (h : Shadows setup name before s s') {all : Roster}
    (hall : s.roster.schedules <+: all.schedules) {place : Nat}
    (hplace : all.place? before name index = some place) {f f' : Feed → Feed}
    (hf : ∀ feed, (f feed).only name .backup = f' (feed.only name .backup)) :
    Shadows setup name before (s.withFeeds (feedOf (.tracker index) f))
      (s'.withFeeds (feedOf (.tracker place) f')) := by
  refine h.withFeeds_trackers (fun _ => rfl) (fun _ => rfl)
    fun other other' hother hother' hrank feed => ?_
  have hsame := h.roster.eq_place_iff hall hplace hother hother' hrank
  simp only [feedOf, TaskId.tracker.injEq, hsame]
  split
  · exact hf feed
  · rfl

/-- Nothing is left of what comes in over the watch of one task. -/
lemma withFeeds_feedOf_left (h : Shadows setup name before s s') {f : Feed → Feed}
    (hf : ∀ other, s.roster.schedules[other]? = some name → other = index →
      ∀ feed, (f feed).only name .backup = feed.only name .backup) :
    Shadows setup name before (s.withFeeds (feedOf (.tracker index) f)) s' := by
  rw [← s'.withFeeds_id]
  refine h.withFeeds_trackers (fun _ => rfl) (fun _ => rfl) fun other _ hother _ _ feed => ?_
  simp only [feedOf, TaskId.tracker.injEq]
  split
  next heq => exact hf other hother heq feed
  next => rfl

/-- Calls are answered in another way. -/
lemma updateGate (h : Shadows setup name before s s') (verb : Verb) (kind : ResourceKind)
    (f : Gate → Gate) :
    Shadows setup name before { s with server := s.server.update kind (·.updateGate verb f) }
      { s' with server := s'.server.update kind (·.updateGate verb f) } := by
  cases kind with
  | backup =>
    refine ⟨h.shelf, ?_, h.watcher, h.roster, h.reports⟩
    rw [climate_updateGate, climate_updateGate, h.climate]
  | scheduledBackup => exact ⟨h.shelf.updateGate verb f, h.climate, h.watcher, h.roster, h.reports⟩

/-- What is left of an input comes in. -/
lemma apply (h : Shadows setup name before s s') (hrole : input.role? = none) {all : Roster}
    (hall : s.roster.schedules <+: all.schedules) {kept : Input}
    (hkept : input.only? name (all.place? before name) = some kept) :
    Shadows setup name before (s.apply input) (s'.apply kept) := by
  cases input with
  | start role => cases hrole
  | event kind news =>
    simp only [Input.only?] at hkept
    split at hkept
    next habout =>
      obtain rfl := Option.some.inj hkept
      exact h.withFeeds_feedsOf kind fun feed => feed.only_push habout
    next => cases hkept
  | close kind =>
    obtain rfl := Option.some.inj hkept
    exact h.withFeeds_feedsOf kind fun _ => rfl
  | arrive task arrival =>
    cases task with
    | watcher index =>
      simp only [Input.only?] at hkept
      split at hkept
      next habout =>
        obtain rfl := Option.some.inj hkept
        exact h.withFeeds_watcher_feedOf index fun feed => feed.only_add habout
      next => cases hkept
    | tracker index =>
      simp only [Input.only?] at hkept
      split at hkept
      next habout =>
        obtain ⟨place, hplace, rfl⟩ := Option.map_eq_some_iff.mp hkept
        exact h.withFeeds_tracker_feedOf hall hplace fun feed => feed.only_add habout
      next => cases hkept
  | items kind objects =>
    cases kind with
    | backup =>
      obtain rfl := Option.some.inj hkept
      exact ⟨h.shelf, h.climate, h.watcher, h.roster, h.reports⟩
    | scheduledBackup =>
      obtain rfl := Option.some.inj hkept
      exact ⟨⟨h.shelf.lists, h.shelf.watches, rfl⟩, h.climate, h.watcher, h.roster, h.reports⟩
  | fault verb kind message =>
    obtain rfl := Option.some.inj hkept
    exact h.updateGate verb kind _
  | hold verb kind held =>
    obtain rfl := Option.some.inj hkept
    exact h.updateGate verb kind _
  | holdSinks held =>
    obtain rfl := Option.some.inj hkept
    exact ⟨h.shelf, congrArg (fun c : Climate => { c with sinksHeld := held }) h.climate, h.watcher,
      h.roster, h.reports⟩
  | cancel =>
    obtain rfl := Option.some.inj hkept
    exact ⟨h.shelf, h.climate, h.watcher, h.roster.cancel, h.reports⟩

/-- An input of which nothing is left comes in. -/
lemma apply_of_none (h : Shadows setup name before s s') {all : Roster}
    (hall : s.roster.schedules <+: all.schedules)
    (hnone : input.only? name (all.place? before name) = none) :
    Shadows setup name before (s.apply input) s' := by
  cases input with
  | event kind news =>
    simp only [Input.only?] at hnone
    split at hnone
    next => cases hnone
    next habout =>
      have hleft : Shadows setup name before (s.withFeeds (feedsOf kind (·.push news)))
          (s'.withFeeds (feedsOf kind id)) :=
        h.withFeeds_feedsOf kind fun feed => feed.only_push_of_not (Bool.eq_false_iff.mpr habout)
      rwa [feedsOf_id, withFeeds_id] at hleft
  | arrive task arrival =>
    cases task with
    | watcher index =>
      simp only [Input.only?] at hnone
      split at hnone
      next => cases hnone
      next habout =>
        have hleft : Shadows setup name before
            (s.withFeeds (feedOf (.watcher index) (·.add arrival)))
            (s'.withFeeds (feedOf (.watcher index) id)) :=
          h.withFeeds_watcher_feedOf index fun feed =>
            feed.only_add_of_not (Bool.eq_false_iff.mpr habout)
        rwa [feedOf_id, withFeeds_id] at hleft
    | tracker index =>
      simp only [Input.only?] at hnone
      split at hnone
      next =>
        -- it is a tracker of another schedule
        have hplace := Option.map_eq_none_iff.mp hnone
        exact h.withFeeds_feedOf_left fun other hother heq =>
          absurd heq (Roster.ne_of_place?_eq_none hall hplace hother)
      next habout =>
        exact h.withFeeds_feedOf_left fun _ _ _ feed =>
          feed.only_add_of_not (Bool.eq_false_iff.mpr habout)
  | items kind objects => cases kind <;> cases hnone
  | _ => cases hnone

end Shadows

end System

end BackupMonitor
