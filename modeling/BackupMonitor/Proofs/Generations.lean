import BackupMonitor.Proofs.ColdStart
import BackupMonitor.Proofs.Reconnect
import BackupMonitor.Proofs.RosterAccount
import BackupMonitor.Proofs.Shutdown

/-!
# Generations of trackers

When the watch of the schedules ends, a watcher starts over with trackers of a new generation.

* `Watcher.Separates`: once a tracker has been started after some moment, all trackers from before
  that moment have finished.
* `Roster.HoldsFrom`: what is registered belongs to trackers that were started after that moment.
* `Tracker.IsFresh`: a tracker has nothing but what it did itself.

`WatcherRun.renewed_by_closure` puts them together at the moment of a closure, with what
`Cycle.Rebuilds` says of the registered names.
-/

namespace BackupMonitor

open Occurrence

namespace Watcher

variable {view : View} {r : Roster} {cluster : String} {stage : WatcherStage}
  {change : WatcherChange} {count : Nat}

/-! ## No two generations at a time -/

/-- The first trackers have finished before a watcher has a cycle again, and before it starts any
other. -/
structure Separates (count : Nat) (stage : WatcherStage) (r : Roster) : Prop where
  /-- What the stage of the watcher says of the trackers holds. -/
  awaits : stage.Awaits r
  /-- The first trackers are there. -/
  started : count ≤ r.trackers.length
  /-- They have finished. -/
  finished : stage.isInCycle = true ∨ count < r.trackers.length →
    ∀ index < count, ∀ t, r.trackers[index]? = some t → t.isFinished = true

/-- A step of a watcher starts no tracker before the first ones have finished. -/
lemma Step.separates (h : Step view r cluster stage change) (hsep : Separates count stage r) :
    Separates count change.stage change.roster := by
  obtain ⟨fresh, htrackers, -⟩ := h.extends_roster
  have hstarted := hsep.started
  -- the first trackers are the same as before
  have hfirst (hfinished : ∀ index < count, ∀ t, r.trackers[index]? = some t →
      t.isFinished = true) : ∀ index < count, ∀ t, change.roster.trackers[index]? = some t →
      t.isFinished = true := by
    intro index hindex t ht
    rw [htrackers, List.getElem?_append_left (by omega)] at ht
    exact hfinished index hindex t ht
  refine ⟨h.awaits hsep.awaits, by rw [htrackers, List.length_append]; omega, fun hsince => ?_⟩
  refine hfirst ?_
  cases h.cycleChange [] with
  | begins hstage =>
    -- a watcher that lists has waited for all trackers
    have hdrained : r.isDrained = true := by
      have hawaits := hsep.awaits
      rw [hstage] at hawaits
      exact hawaits
    exact fun index _ t ht => Roster.isDrained_iff.mp hdrained t (List.mem_of_getElem? ht)
  | takes hstage => exact hsep.finished (.inl hstage)
  | goesOn hstage => exact hsep.finished (.inl hstage)
  | outside hnext hsame =>
    rw [hnext, hsame] at hsince
    exact hsep.finished (.inr (hsince.resolve_left (by simp)))

lemma isKept_separates (cluster : String) (count : Nat) :
    IsKept cluster fun stage r _ => Separates count stage r where
  watcher hstep h := hstep.separates h
  tracker {r stage past index t} ht hrunning h next := by
    refine ⟨h.awaits.setStage ht hrunning next, by simpa using h.started, fun hsince => ?_⟩
    rw [Roster.trackers_setStage, List.length_modify] at hsince
    intro other hother u hu
    have hfinished := h.finished hsince
    -- it was not one of the first trackers that moved on
    have hne : index ≠ other := by
      rintro rfl
      rw [hfinished index hother t ht] at hrunning
      cases hrunning
    rw [Roster.trackers_setStage, List.getElem?_modify_ne _ _ hne] at hu
    exact hfinished other hother u hu
  backups {r stage past} h F := by
    have hlength := r.length_withFeeds F
    refine ⟨h.awaits.withFeeds F, by rw [hlength]; exact h.started, fun hsince => ?_⟩
    rw [hlength] at hsince
    intro index hindex u hu
    rw [Roster.getElem?_withFeeds, Option.map_eq_some_iff] at hu
    obtain ⟨t, ht, rfl⟩ := hu
    rw [Tracker.isFinished_updateFeed]
    exact h.finished hsince index hindex t ht
  schedules h f := ⟨trivial, h.started, h.finished⟩
  cancel {r stage past} h := by
    refine ⟨?_, h.started, h.finished⟩
    have hawaits := h.awaits
    cases stage <;> exact hawaits

end Watcher

/-! ## Trackers that were started later -/

namespace Roster

/-- What is registered are the tokens of trackers that come after the first ones. -/
structure HoldsFrom (count : Nat) (r : Roster) : Prop where
  /-- The first trackers are there. -/
  started : count ≤ r.origins.length
  /-- What is registered comes after them. -/
  held : ∀ name token, r.registry.get? name = some token →
    ∃ index, count ≤ index ∧ r.origins[index]? = some (name, token)

/-- What is registered once the registry was empty belongs to trackers that were started later. -/
lemma isKept_holdsFrom (count : Nat) : IsKept (HoldsFrom count) where
  start r schedule h := by
    have hstarted := h.started
    cases hget : r.registry.get? schedule with
    | some token => rwa [start_of_some hget]
    | none =>
      have horigins := origins_start hget
      refine ⟨by rw [horigins, List.length_append]; omega, fun name token hname => ?_⟩
      rw [horigins]
      rw [registry_start hget, Table.get?_insert] at hname
      split at hname
      next heq =>
        rw [heq, ← Option.some.inj hname]
        exact ⟨r.origins.length, hstarted, by simp⟩
      next =>
        obtain ⟨index, hindex, horigin⟩ := h.held name token hname
        refine ⟨index, hindex, ?_⟩
        rw [List.getElem?_append_left (List.getElem?_eq_some_iff.mp horigin).1, horigin]
  stop r schedule reason h := by
    rw [stop_eq]
    split
    · exact h
    · refine ⟨h.started, fun name token hname => h.held name token ?_⟩
      rw [Table.get?_erase] at hname
      split at hname
      next => cases hname
      next => exact hname
  stopAll r h := ⟨h.started, fun name token hname => by cases hname⟩
  cancel r h := ⟨h.started, h.held⟩
  await r closed emptied h := ⟨h.started, h.held⟩
  progress r trackers heq h := by
    have horigins : origins { r with trackers } = r.origins := heq
    refine ⟨?_, ?_⟩
    · rw [horigins]
      exact h.started
    · rw [horigins]
      exact h.held

end Roster

/-! ## Trackers that start from nothing -/

/-- Whether a tracker comes to this stage by way of a list. -/
def TrackerStage.hasCalled : TrackerStage → Bool
  | .spawned => false
  | .ready => false
  | .finished _ => false
  | _ => true

namespace Tracker

variable {setup : Setup} {view : View} {schedule : String} {stage stage' : TrackerStage}
  {did past : List Occurrence} {t : Tracker}

lemma hasCalled_updateFeed (t : Tracker) (f : Feed → Feed) :
    (t.updateFeed f).stage.hasCalled = t.stage.hasCalled :=
  stage_updateFeed (P := fun stage => stage.hasCalled = t.stage.hasCalled) f
    (fun _ _ h => h) (fun _ _ _ _ h => h) rfl

/-- The way to a watch begins with a list call. -/
lemma Step.hasCalled (h : Step view schedule stage stage' did) (hcalled : stage'.hasCalled = true) :
    stage.hasCalled = true ∨ .called ⟨view.setup.space, .list .backup⟩ ∈ did := by
  cases h with
  | callList => exact .inr List.mem_cons_self
  | begin => cases hcalled
  | cancel => cases hcalled
  | listFails => cases hcalled
  | watchFails => cases hcalled
  | sawEnd => cases hcalled
  | listed => exact .inl rfl
  | callWatch => exact .inl rfl
  | opened => exact .inl rfl
  | take => exact .inl rfl
  | deliver => exact .inl rfl

/-- A tracker has called for a list of its own before it gets any further. -/
lemma History.called_mem (h : History setup t past) (hcalled : t.stage.hasCalled = true) :
    .called ⟨setup.space, .list .backup⟩ ∈ past := by
  induction h with
  | spawned hstage =>
    rw [hstage] at hcalled
    cases hcalled
  | fed f h ih => exact ih ((hasCalled_updateFeed _ f).symm.trans hcalled)
  | stepped hview lines h hstep ih =>
    rcases hstep.hasCalled hcalled with hbefore | hnow
    · exact List.mem_append_left _ (ih hbefore)
    · exact List.mem_append_right _ (List.mem_append_left _ (hview ▸ hnow))

/-- A tracker that has nothing but what it did itself. -/
structure IsFresh (space : String) (past : List Occurrence) (t : Tracker) : Prop where
  /-- It has called for a list of its own, unless it has not got so far. -/
  called : t.stage.hasCalled = true → .called ⟨space, .list .backup⟩ ∈ past
  /-- It watches from what its own lists said. -/
  resumes : ∀ cursor, .called ⟨space, .watch .backup cursor⟩ ∈ past → IsListed past cursor
  /-- It tracks nothing until it takes an event. -/
  blank : past.filterMap event? = [] → t.stage.IsBlank

lemma History.isFresh (h : History setup t past) : t.IsFresh setup.space past :=
  ⟨h.called_mem, h.isResuming.2 setup.space, fun hevent => (h.isBlank hevent).1⟩

end Tracker

/-! ## A closure -/

namespace System

variable {setup : Setup} {cluster : String} {s t closed : System}

/-- In one step from `s` to `next` the first watcher does this, among other things. -/
def WatcherDoes (setup : Setup) (s : System) (what : Occurrence) (next : System) : Prop :=
  s.step setup (.watcher 0) = some next ∧ ∃ did, what ∈ did ∧
    next.trace.ofTask (.watcher 0) = s.trace.ofTask (.watcher 0) ++ did

/-- What a step of the only watcher does is what the step answers with. -/
lemma WatcherDoes.exists_change {what : Occurrence} (h : WatcherDoes setup s what t) {w : Watcher}
    (hw : s.watchers = [w]) :
    ∃ change, Watcher.Step (s.view setup Tokens.root) s.roster w.cluster w.stage change ∧
      what ∈ change.did ∧ t.roster = change.roster ∧
      t.watchers = [{ w with stage := change.stage }] := by
  obtain ⟨hstep, did, hwhat, hdid⟩ := h
  obtain ⟨change, -, hchange, rfl⟩ := step_watcher_of_alone hw hstep
  refine ⟨change, Watcher.step_cases hchange, ?_, rfl, rfl⟩
  rw [ofTask_append_map, if_pos rfl] at hdid
  rw [List.append_cancel_left hdid]
  exact hwhat

lemma WatcherRun.exists_watcher (h : WatcherRun setup cluster s) :
    ∃ w, s.watchers = [w] ∧ w.cluster = cluster := by
  obtain ⟨w, hw, hcluster, -⟩ := (Watcher.isKept_awaits cluster).watcherRun
    (fun r htrackers _ => Roster.isDrained_iff.mpr (by simp [htrackers])) h
  exact ⟨w, hw, hcluster⟩

/-- When the watcher has seen the end of its watch, it is outside of a cycle, nothing is registered,
and no tracker was started. -/
lemma WatcherRun.closure (h : WatcherRun setup cluster s)
    (hclosure : WatcherDoes setup s (.sawEnd .scheduledBackup) closed) :
    ∃ w, closed.watchers = [w] ∧ w.cluster = cluster ∧ w.stage.isInCycle = false ∧
      closed.roster.registry = ∅ ∧ closed.roster.trackers = s.roster.trackers := by
  obtain ⟨w, hw, hcluster⟩ := h.exists_watcher
  obtain ⟨change, hstep, hmem, hroster, hwatchers⟩ := hclosure.exists_change hw
  have hdrain : change = Watcher.drain s.roster .relist [.sawEnd .scheduledBackup,
      .measured (.restart ResourceKind.scheduledBackup.plural)] := by
    cases hstep.does_of_mem rfl hmem with
    | sawEnd hchange => exact hchange
  refine ⟨_, hwatchers, hcluster, ?_, ?_, ?_⟩
  · rw [hdrain]
    rfl
  · rw [hroster, hdrain, Watcher.registry_drain]
  · rw [hroster, hdrain]
    exact Roster.trackers_close _

/-- A watcher that has seen the end of its watch starts over as a new one, and it keeps the trackers
from before apart from those that it starts then.

* It does not list before nothing is registered and no tracker is running; and when it starts
  another tracker, all those from before have finished.
* In a cycle, the registered names are those that a new watcher has registered after the same
  listing and the same events, all of them since the closure.
* Whatever is registered is live and belongs to a tracker that was started since the closure, which
  had done nothing by then and begins with a list call of its own and nothing tracked. -/
theorem WatcherRun.renewed_by_closure (h : WatcherRun setup cluster s)
    (hclosure : WatcherDoes setup s (.sawEnd .scheduledBackup) closed)
    (hlater : LeadsTo setup closed t) :
    (∀ space next, WatcherDoes setup t (.called ⟨space, .list .scheduledBackup⟩) next →
      t.roster.registry = ∅ ∧ t.roster.running = 0) ∧
    (s.roster.trackers.length < t.roster.trackers.length →
      ∀ index < s.roster.trackers.length, ∀ u, t.roster.trackers[index]? = some u →
        u.isFinished = true) ∧
    ∀ w, t.watchers = [w] → w.stage.isInCycle = true → ∃ since cycle,
      t.trace.ofTask (.watcher 0) = closed.trace.ofTask (.watcher 0) ++ since ∧
      Cycle.ofPast? since = some cycle ∧
      t.roster.registry.names = (cycle.roster cluster).registry.names ∧
      (∀ setup' cold v, WatcherRun setup' cluster cold → cold.watchers = [v] →
        v.stage.isInCycle = true →
        Cycle.ofPast? (cold.trace.ofTask (.watcher 0)) = some cycle →
        t.roster.registry.names = cold.roster.registry.names) ∧
      ∀ name token, t.roster.registry.get? name = some token →
        t.roster.tokens.isCancelled token = t.roster.tokens.isCancelled Tokens.root ∧
        ∃ index u, s.roster.trackers.length ≤ index ∧ t.roster.trackers[index]? = some u ∧
          u.schedule = name ∧ u.token = token ∧ closed.trace.ofTask (.tracker index) = [] ∧
          u.IsFresh setup.space (t.trace.ofTask (.tracker index)) := by
  have hclosedrun : WatcherRun setup cluster closed := h.leadsTo (.of_step hclosure.1)
  have hrun : WatcherRun setup cluster t := hclosedrun.leadsTo hlater
  obtain ⟨v, hv, hcluster, hout, hempty, htrackers⟩ := h.closure hclosure
  have hrebuilds := (Watcher.isKept_inCycle (Cycle.isKept_rebuilds cluster)
    (closed.trace.ofTask (.watcher 0))).leadsTo hlater
    ⟨v, hv, hcluster, [], (List.append_nil _).symm, .of_empty hout hempty []⟩
  have hseparates := (Watcher.isKept_separates cluster s.roster.trackers.length).leadsTo hlater
    ⟨v, hv, hcluster, hclosedrun.awaits hv, by rw [htrackers], by simp [hout, htrackers]⟩
  have hholds := (Roster.isKept_holdsFrom s.roster.trackers.length).leadsTo hlater
    ⟨by simp [Roster.origins, htrackers],
      fun name token hname => by rw [hempty] at hname; cases hname⟩
  refine ⟨fun space next hnext => ?_, fun hstarted => ?_, fun w hw hcycle => ?_⟩
  · obtain ⟨w, hw, -⟩ := hrun.exists_watcher
    obtain ⟨change, hstep, hmem, -⟩ := hnext.exists_change hw
    have hready : w.stage = .ready := by
      cases hstep.does_of_mem rfl hmem with
      | callList hstage => exact hstage
    have hawaits := hrun.awaits hw
    rw [hready] at hawaits
    exact ⟨(hrun.rebuilds hw).empty (by rw [hready]; rfl), Roster.running_eq_zero_iff.mpr hawaits⟩
  · obtain ⟨w, -, -, hsep⟩ := hseparates
    exact hsep.finished (.inr hstarted)
  · obtain ⟨since, hsince, hcold⟩ := hrebuilds.of_watchers_eq hw
    obtain ⟨cycle, hpast, hsame⟩ := hcold.keeps hcycle
    refine ⟨since, cycle, hsince, hpast, hsame.names_eq, ?_, fun name token hname => ?_⟩
    · intro setup' cold u hcoldrun hu hucycle hucold
      obtain ⟨cycle', hpast', hsame'⟩ := (hcoldrun.rebuilds hu).keeps hucycle
      obtain rfl : cycle = cycle' := Option.some.inj (hucold.symm.trans hpast')
      exact hsame.names_eq.trans hsame'.names_eq.symm
    · obtain ⟨index, hindex, horigin⟩ := hholds.held name token hname
      obtain ⟨u, hu, hschedule, htoken⟩ := Roster.getElem?_origins_eq_some_iff.mp horigin
      have hnothing : closed.trace.ofTask (.tracker index) = [] :=
        hclosedrun.reachable.ofTask_eq_nil (by rw [htrackers]; exact hindex)
      exact ⟨hrun.isAccounted.isCancelled_eq_root hname, index, u, hindex, hu, hschedule, htoken,
        hnothing, (hrun.reachable.history hu).isFresh⟩

end System

namespace Sample

/-- The schedules by then: one has moved away, and another one has come. -/
def moved : List Object :=
  [schedule (some "nightly") (.string "other"), schedule (some "weekly") (.string "main")]

/-- There are two trackers of a schedule when the watch of the schedules ends. -/
def ending : List Move :=
  replaced ++ [.input (.close .scheduledBackup)]

/-- The two trackers finish, and the watcher lists again. -/
def relisted : List Move :=
  .input (.items .scheduledBackup moved) :: List.replicate 2 (.step (.tracker 1)) ++
    .input (.holdSinks false) :: steps 3 ++ List.replicate 3 (.step (.watcher 0))

/-- The system when the watcher has seen the end of its watch. -/
def closure : System :=
  systemAfter (ending ++ [.step (.watcher 0)])

/-- The system after the list that follows. -/
def renewed : System :=
  systemAfter (ending ++ [.step (.watcher 0)] ++ relisted)

/-- A new watcher lists those schedules. -/
def coldStart : List Move :=
  .input (.items .scheduledBackup moved) :: .input (.start (.watcher "main")) ::
    List.replicate 3 (.step (.watcher 0))

end Sample

/-- After a closure with a stopped tracker that is blocked in a sink and another one under way, the
list that follows leads to the registry of a new watcher, and both trackers have finished. -/
theorem System.renewed_by_closure_relisted :
    WatcherRun Sample.setup "main" (Sample.systemAfter Sample.ending) ∧
      WatcherDoes Sample.setup (Sample.systemAfter Sample.ending) (.sawEnd .scheduledBackup)
        Sample.closure ∧
      LeadsTo Sample.setup Sample.closure Sample.renewed ∧
      (∀ index < 2, ∀ u, Sample.renewed.roster.trackers[index]? = some u →
        u.isFinished = true) ∧
      Sample.renewed.roster.registry.names =
        (Sample.systemAfter Sample.coldStart).roster.registry.names ∧
      ∃ index u, 2 ≤ index ∧ Sample.renewed.roster.trackers[index]? = some u ∧
        u.schedule = "weekly" ∧
        u.IsFresh Sample.setup.space (Sample.renewed.trace.ofTask (.tracker index)) := by
  have h : WatcherRun Sample.setup "main" (Sample.systemAfter Sample.ending) :=
    ⟨Sample.ending, rfl, rfl⟩
  have hclosure : WatcherDoes Sample.setup (Sample.systemAfter Sample.ending)
      (.sawEnd .scheduledBackup) Sample.closure :=
    ⟨rfl, _, List.mem_cons_self, rfl⟩
  have hlater : LeadsTo Sample.setup Sample.closure Sample.renewed := ⟨Sample.relisted, rfl, rfl⟩
  have hcold : WatcherRun Sample.setup "main" (Sample.systemAfter Sample.coldStart) :=
    ⟨Sample.coldStart, rfl, rfl⟩
  obtain ⟨-, hfinished, hcycle⟩ := WatcherRun.renewed_by_closure h hclosure hlater
  obtain ⟨since, cycle, hsince, hpast, -, hnames, hheld⟩ := hcycle ⟨"main", .listed "rv-2"⟩ rfl rfl
  obtain rfl := List.append_cancel_left (hsince.symm.trans rfl)
  obtain rfl := Option.some.inj hpast
  obtain ⟨-, index, u, hindex, hu, hschedule, -, -, hfresh⟩ := hheld "weekly" 3 rfl
  have hsame := hnames _ _ ⟨"main", .listed "rv-1"⟩ hcold rfl rfl rfl
  exact ⟨h, hclosure, hlater, hfinished (by decide), hsame, index, u, hindex, hu, hschedule, hfresh⟩

end BackupMonitor
