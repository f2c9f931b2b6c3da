import BackupMonitor.Proofs.ListVersions
import BackupMonitor.Proofs.OwnErrors
import BackupMonitor.Proofs.Rest
import BackupMonitor.Proofs.SingleInputs
import BackupMonitor.Proofs.Tallies

/-!
# The order of the steps does not show

Whenever a session of a watcher has come to rest, the same tasks have had the same effects, in
whatever order the tasks took their steps. What is read off the effects without regard to who had
them first is therefore the same: what each sink was handed, and what was counted.

Two limits of this are shown at the end (`System.order_shows_in_counters`): a sink whose answers
depend on what it was handed before, and several watchers that share their trackers.
-/

namespace BackupMonitor

open Occurrence

/-! ## Effects -/

/-- Two lists of entries under keys that have the same under every key have the same entries. -/
lemma perm_of_filter_eq {α β : Type} [DecidableEq α] {xs ys : List (α × β)}
    (h : ∀ key, xs.filter (·.1 == key) = ys.filter (·.1 == key)) : xs.Perm ys := by
  classical
  have hcount (xs : List (α × β)) (entry : α × β) :
      xs.count entry = (xs.filter (·.1 == entry.1)).count entry :=
    (List.count_filter (by simp)).symm
  exact List.perm_iff_count.mpr fun entry => by rw [hcount xs, hcount ys, h]

namespace Trace

/-- What shows of a trace, with the task that did it. -/
def effects (trace : Trace) : List (TaskId × Occurrence) :=
  trace.filterMap fun entry => entry.what.effect?.map (entry.task, ·)

lemma effects_append (trace more : Trace) :
    effects (trace ++ more) = trace.effects ++ effects more := List.filterMap_append

/-- What shows of what one task did. -/
lemma filter_effects (trace : Trace) (task : TaskId) :
    trace.effects.filter (·.1 == task) = ((trace.ofTask task).filterMap effect?).map (task, ·) := by
  unfold effects ofTask
  induction trace with
  | nil => rfl
  | cons entry trace ih =>
    obtain ⟨other, what⟩ := entry
    by_cases hother : other = task
    · cases heffect : what.effect? <;> simp [hother, heffect, ih]
    · cases heffect : what.effect? <;> simp [hother, heffect, ih]

/-- The report that is handed to the sink at a place. -/
def reportAt? (place : Nat) : TaskId × Occurrence → Option Report
  | (_, delivered d) => if d.place == place then some d.report else none
  | _ => none

/-- What a sink is handed shows. -/
lemma reportsAt_eq (trace : Trace) (place : Nat) :
    Delivery.reportsAt place trace.deliveries = trace.effects.filterMap (reportAt? place) := by
  unfold Delivery.reportsAt deliveries effects
  induction trace with
  | nil => rfl
  | cons entry trace ih =>
    obtain ⟨task, what⟩ := entry
    cases what with
    | delivered d =>
      by_cases hplace : d.place = place
      · simp [effect?, reportAt?, Delivery.unanswered, hplace, ih]
      · simp [effect?, reportAt?, Delivery.unanswered, hplace, ih]
    | measured m => cases m <;> exact ih
    | _ => exact ih

/-- What is measured shows, refusals apart. -/
lemma filter_measurements_eq (trace : Trace) :
    trace.measurements.filter (!·.isSinkFailure) =
      trace.effects.filterMap fun effect => effect.2.measurement? := by
  unfold measurements effects
  induction trace with
  | nil => rfl
  | cons entry trace ih =>
    obtain ⟨task, what⟩ := entry
    cases what with
    | measured m =>
      cases m with
      | sinkFailure sink => exact ih
      | _ => exact congrArg (_ :: ·) ih
    | _ => exact ih

/-- The effects of two traces are the same, in some order. -/
lemma sameTallies_of_effects_perm {trace trace' : Trace}
    (h : trace.effects.Perm trace'.effects) : trace.ledger.SameTallies trace'.ledger := by
  have hmeasurements := h.filterMap fun effect => effect.2.measurement?
  rw [← filter_measurements_eq, ← filter_measurements_eq] at hmeasurements
  have hfilter (trace : Trace) :
      trace.ledger.Agrees (.ofList (trace.measurements.filter (!·.isSinkFailure))) :=
    Ledger.agrees_filter trace.measurements
  exact ((Ledger.SameTallies.of_agrees (hfilter trace)).trans
    (Ledger.sameTallies_of_perm hmeasurements)).trans (.of_agrees (hfilter trace').symm)

end Trace

namespace System

variable {setup : Setup} {cluster : String} {s s' t t' : System} {inputs : List Input}
  {input : Input}

/-- What was done since an earlier moment of a run. -/
def since (t s : System) : Trace :=
  t.trace.drop s.trace.length

/-- Input does nothing by itself. -/
lemma since_apply (t s : System) (input : Input) : (t.apply input).since s = t.since s := by
  unfold since
  rw [trace_apply]

/-- What a run adds to the trace comes at its end. -/
lemma LeadsTo.trace_eq (h : LeadsTo setup s t) : t.trace = s.trace ++ t.since s := by
  have hprefix : s.trace <+: t.trace := by
    refine h.invariant (P := fun u => s.trace <+: u.trace) (fun u input _ hu => ?_)
      (fun u task next hu hstep => ?_) (List.prefix_refl _)
    · rwa [trace_apply]
    · obtain ⟨did, htrace, -⟩ := exists_lists_of_step hstep
      rw [htrace]
      exact hu.trans (List.prefix_append _ _)
  obtain ⟨more, hmore⟩ := hprefix
  unfold since
  rw [← hmore, List.drop_left]

/-- What was done during a run in two parts. -/
lemma LeadsTo.since_trans {u : System} (h : LeadsTo setup s u) (h' : LeadsTo setup u t) :
    t.since s = u.since s ++ t.since u := by
  have htrace := h'.trace_eq
  rw [h.trace_eq, List.append_assoc] at htrace
  conv_lhs => unfold since
  rw [htrace, List.drop_left]

/-- There is no second watcher that could have done anything. -/
lemma WatcherRun.ofTask_eq_nil (hrun : WatcherRun setup cluster s) (index : Nat) :
    s.trace.ofTask (.watcher (index + 1)) = [] := by
  obtain ⟨w, hw, -⟩ := hrun.exists_watcher
  exact hrun.reachable.watchersHaveHistory.2 (index + 1) (by rw [hw]; simp)

/-- The results are those of the watcher. -/
lemma WatcherRun.filterMap_result? (hrun : WatcherRun setup cluster s) :
    s.trace.filterMap (Entry.result? s.watchers.isEmpty) =
      ((s.trace.ofTask (.watcher 0)).map (Entry.mk (.watcher 0))).filterMap
        (Entry.result? false) := by
  obtain ⟨w, hw, -⟩ := hrun.exists_watcher
  have hentries : (s.trace.ofTask (.watcher 0)).map (Entry.mk (.watcher 0)) =
      s.trace.filter (·.task == .watcher 0) := by
    unfold Trace.ofTask
    rw [List.map_map]
    refine (List.map_congr_left fun entry hentry => ?_).trans (List.map_id _)
    have htask := beq_iff_eq.mp (List.mem_filter.mp hentry).2
    exact congrArg (Entry.mk · entry.what) htask.symm
  rw [hentries, hw, List.filterMap_filter]
  refine List.filterMap_congr fun entry hentry => ?_
  obtain ⟨task, what⟩ := entry
  cases task with
  | tracker index => cases what <;> rfl
  | watcher index =>
    cases index with
    | zero => rfl
    | succ index =>
      have hmem : what ∈ s.trace.ofTask (.watcher (index + 1)) := mem_ofTask.mpr hentry
      rw [hrun.ofTask_eq_nil] at hmem
      cases hmem

namespace Alike

/-- In systems that are alike every task had the same effects. -/
lemma filter_effects_eq (h : Alike setup s s') (hrun : WatcherRun setup cluster s)
    (hrun' : WatcherRun setup cluster s') (task : TaskId) :
    s.trace.effects.filter (·.1 == task) = s'.trace.effects.filter (·.1 == task) := by
  rw [Trace.filter_effects, Trace.filter_effects]
  cases task with
  | tracker index => exact congrArg _ (h.shown index)
  | watcher index =>
    cases index with
    | zero => rw [h.same.told]
    | succ index => rw [hrun.ofTask_eq_nil, hrun'.ofTask_eq_nil]

lemma running_eq (h : Alike setup s s') : s.roster.running = s'.roster.running := by
  have hcount (r : Roster) : r.running = (r.trackers.map (·.stage.plain)).countP fun stage =>
      !Tracker.isFinished { schedule := "", token := Tokens.root, stage } := by
    unfold Roster.running
    rw [← List.countP_eq_length_filter, List.countP_map]
    refine List.countP_congr fun u _ => ?_
    obtain ⟨schedule, token, stage⟩ := u
    cases stage <;> rfl
  rw [hcount, hcount, h.stages]

lemma result?_eq (h : Alike setup s s') (hrun : WatcherRun setup cluster s)
    (hrun' : WatcherRun setup cluster s') : s.result? = s'.result? := by
  rw [System.result?_eq, System.result?_eq, hrun.filterMap_result?, hrun'.filterMap_result?,
    h.same.told]

end Alike

/-! ## What shows of a session -/

namespace Session

/-- Whenever a session has come to rest, every task had the same effects. -/
lemma filter_effects_eq (h : Session setup {} inputs s) (h' : Session setup {} inputs s')
    (hroles : inputs.filterMap Input.role? = [] ∨
      inputs.filterMap Input.role? = [.watcher cluster]) (task : TaskId) :
    s.trace.effects.filter (·.1 == task) = s'.trace.effects.filter (·.1 == task) := by
  rcases hroles with hnone | hwatcher
  · rw [(h.eq_of_idle h' hnone).2]
  · obtain ⟨-, -, halike⟩ := h.alike h' hwatcher
    exact halike.filter_effects_eq (h.watcherRun hwatcher) (h'.watcherRun hwatcher) task

/-- What was done since an input had the same effects, with the same tasks. -/
lemma effects_since_perm (h : Session setup {} inputs s) (hst : Settles setup (s.apply input) t)
    (h' : Session setup {} inputs s') (hst' : Settles setup (s'.apply input) t')
    (hroles : (inputs ++ [input]).filterMap Input.role? = [] ∨
      (inputs ++ [input]).filterMap Input.role? = [.watcher cluster]) :
    (t.since s).effects.Perm (t'.since s').effects := by
  refine perm_of_filter_eq fun task => ?_
  have hbefore : inputs.filterMap Input.role? = [] ∨
      inputs.filterMap Input.role? = [.watcher cluster] := by
    rw [List.filterMap_append] at hroles
    rcases hroles with hnone | hwatcher
    · exact .inl (List.append_eq_nil_iff.mp hnone).1
    · rcases List.append_eq_singleton_iff.mp hwatcher with ⟨hnone, -⟩ | ⟨hwatcher, -⟩
      · exact .inl hnone
      · exact .inr hwatcher
  have htrace {s t : System} (hst : Settles setup (s.apply input) t) :
      t.trace = s.trace ++ t.since s := by
    have hlater := hst.leadsTo.trace_eq
    unfold since at hlater ⊢
    rwa [trace_apply] at hlater
  have hafter := (h.next hst).filter_effects_eq (h'.next hst') hroles task
  rw [htrace hst, htrace hst', Trace.effects_append, Trace.effects_append, List.filter_append,
    List.filter_append, h.filter_effects_eq h' hbefore task] at hafter
  exact List.append_cancel_left hafter

/-- The order of the steps makes no difference. In two sessions of a watcher with the same input,
one at a time, the tasks may take their steps in different orders after each input until none of
them can. They always come to that, and then each sink was handed the same reports during the input,
as often each, the same names are registered, as many trackers run, and the watcher has finished in
both sessions or in none, with the same result. All that is counted is the same, apart from the sum
of the durations, which is rounded; the refusals under a name are among it if the sinks of that name
refuse as many of the same reports in any order. -/
theorem same_in_every_order (h : Session setup {} inputs s)
    (hst : Settles setup (s.apply input) t) (h' : Session setup {} inputs s')
    (hst' : Settles setup (s'.apply input) t')
    (hroles : (inputs ++ [input]).filterMap Input.role? = [] ∨
      (inputs ++ [input]).filterMap Input.role? = [.watcher cluster]) :
    (∀ order u, (s.apply input).play setup (List.map .step order) = some u →
      order.length ≤ (s.apply input).budget setup) ∧
    (∀ place, (Delivery.reportsAt place (t.since s).deliveries).Perm
      (Delivery.reportsAt place (t'.since s').deliveries)) ∧
    t.roster.registry.names = t'.roster.registry.names ∧
    t.roster.running = t'.roster.running ∧
    t.result? = t'.result? ∧
    t.trace.ledger.SameTallies t'.trace.ledger ∧
    ∀ name, (∀ sink ∈ setup.sinks, sink.name = name → sink.IsOrderBlind) →
      t.trace.ledger.count (Ledger.sinkFailures name) =
        t'.trace.ledger.count (Ledger.sinkFailures name) := by
  have heffects : t.trace.effects.Perm t'.trace.effects :=
    perm_of_filter_eq ((h.next hst).filter_effects_eq (h'.next hst') hroles)
  have hreach {t : System} (h : Session setup {} (inputs ++ [input]) t) : Reachable setup t := by
    obtain ⟨moves, -, hplay⟩ := h.exists_moves
    exact ⟨moves, hplay⟩
  have hsame : t.roster.registry.names = t'.roster.registry.names ∧
      t.roster.running = t'.roster.running ∧ t.result? = t'.result? := by
    rcases hroles with hnone | hwatcher
    · rw [((h.next hst).eq_of_idle (h'.next hst') hnone).2]
      exact ⟨rfl, rfl, rfl⟩
    · obtain ⟨-, -, halike⟩ := (h.next hst).alike (h'.next hst') hwatcher
      exact ⟨congrArg Table.names halike.same.registry, halike.running_eq,
        halike.result?_eq ((h.next hst).watcherRun hwatcher) ((h'.next hst').watcherRun hwatcher)⟩
  refine ⟨fun order u hplay => Nat.le_of_add_right_le (length_le_budget hplay), fun place => ?_,
    hsame.1, hsame.2.1, hsame.2.2, Trace.sameTallies_of_effects_perm heffects,
    fun name hblind => ?_⟩
  · rw [Trace.reportsAt_eq, Trace.reportsAt_eq]
    exact (h.effects_since_perm hst h' hst' hroles).filterMap _
  · have hr := hreach (h.next hst)
    have hr' := hreach (h'.next hst')
    rw [hr.count_sinkFailures name, hr'.count_sinkFailures name]
    refine hr.areAnswered.countP_isRefusalBy_eq hr'.areAnswered (fun place => ?_) hblind
    rw [Trace.reportsAt_eq, Trace.reportsAt_eq]
    exact heffects.filterMap _

end Session

end System

namespace Sample

/-- Neither of the sinks has a memory. -/
lemma isOrderBlind_setup : ∀ sink ∈ setup.sinks, sink.IsOrderBlind := by
  intro sink hsink
  refine Sink.isOrderBlind_of_respond_eq fun earlier report => ?_
  rcases List.mem_cons.mp hsink with rfl | hsink
  · rfl
  · rw [List.mem_singleton.mp hsink]
    rfl

/-- A backup of two schedules that failed. -/
def shared (name error : String) : Object :=
  { backup name [("phase", .string "failed"), ("error", .string error)] with
    owners := some [{ kind := "ScheduledBackup", name := "nightly" },
      { kind := "ScheduledBackup", name := "weekly" }] }

/-- One of the trackers takes that many steps. -/
def turns (index count : Nat) : List TaskId :=
  List.replicate count (.tracker index)

/-- Two failures wait for the sinks in either of two trackers, of which the first one does
everything first. -/
def oneByOne : List (Input × List TaskId) :=
  [(.items .scheduledBackup
      [schedule (some "nightly") (.string "main"), schedule (some "weekly") (.string "main")], []),
    (.start (.watcher "main"), List.replicate 5 (.watcher 0) ++ turns 0 5 ++ turns 1 5),
    (.holdSinks true, []),
    (.event .backup { change := .modified, object := shared "b1" "disk full" },
      turns 0 1 ++ turns 1 1),
    (.event .backup { change := .modified, object := shared "b2" "timeout" }, [])]

/-- The same comes in, and the second tracker is faster. -/
def crosswise : List (Input × List TaskId) :=
  [(.items .scheduledBackup
      [schedule (some "nightly") (.string "main"), schedule (some "weekly") (.string "main")], []),
    (.start (.watcher "main"),
      List.replicate 3 (.watcher 0) ++ turns 1 5 ++ turns 0 5 ++ List.replicate 2 (.watcher 0)),
    (.holdSinks true, []),
    (.event .backup { change := .modified, object := shared "b1" "disk full" },
      turns 1 1 ++ turns 0 1),
    (.event .backup { change := .modified, object := shared "b2" "timeout" }, [])]

/-- The system after these inputs. -/
def afterTurns (all : List (Input × List TaskId)) : System :=
  (({} : System).session? setup all).getD {}

/-- The report on the first failure. -/
def full : Report :=
  .failure "backup failed: disk full"

/-- The report on the second failure. -/
def late : Report :=
  .failure "backup failed: timeout"

/-- The sinks are released, and the trackers hand out their reports one by one. -/
def handedOneByOne : System :=
  afterTurns (oneByOne ++ [(.holdSinks false, turns 0 5 ++ turns 1 5)])

/-- The sinks are released, and the trackers hand out their reports in turn. -/
def handedCrosswise : System :=
  afterTurns (crosswise ++ [(.holdSinks false, turns 1 2 ++ turns 0 2 ++ turns 1 3 ++ turns 0 3)])

end Sample

/-- Two trackers hand out two failures each, one after the other or in turn: the sinks are handed
them in another order, but as often each, and the first sink has refused all four in either case. -/
theorem System.same_in_every_order_released :
    Session Sample.setup {} (Sample.oneByOne.map (·.1)) (Sample.afterTurns Sample.oneByOne) ∧
      Session Sample.setup {} (Sample.oneByOne.map (·.1)) (Sample.afterTurns Sample.crosswise) ∧
      Settles Sample.setup ((Sample.afterTurns Sample.oneByOne).apply (.holdSinks false))
        Sample.handedOneByOne ∧
      Settles Sample.setup ((Sample.afterTurns Sample.crosswise).apply (.holdSinks false))
        Sample.handedCrosswise ∧
      (Sample.oneByOne.map (·.1) ++ [Input.holdSinks false]).filterMap Input.role? =
        [Role.watcher "main"] ∧
      Delivery.reportsAt 0
          (Sample.handedOneByOne.since (Sample.afterTurns Sample.oneByOne)).deliveries =
        [Sample.full, Sample.late, Sample.full, Sample.late] ∧
      Delivery.reportsAt 0
          (Sample.handedCrosswise.since (Sample.afterTurns Sample.crosswise)).deliveries =
        [Sample.full, Sample.full, Sample.late, Sample.late] ∧
      (Delivery.reportsAt 0
          (Sample.handedOneByOne.since (Sample.afterTurns Sample.oneByOne)).deliveries).Perm
        (Delivery.reportsAt 0
          (Sample.handedCrosswise.since (Sample.afterTurns Sample.crosswise)).deliveries) ∧
      Sample.handedOneByOne.trace.ledger.count (Ledger.sinkFailures "down") = 4 ∧
      Sample.handedCrosswise.trace.ledger.count (Ledger.sinkFailures "down") = 4 := by
  have hstart : Session Sample.setup {} [] {} := .start
  have h : Session Sample.setup {} (Sample.oneByOne.map (·.1))
      (Sample.afterTurns Sample.oneByOne) :=
    hstart.of_session? Sample.oneByOne rfl
  have h' : Session Sample.setup {} (Sample.oneByOne.map (·.1))
      (Sample.afterTurns Sample.crosswise) :=
    hstart.of_session? Sample.crosswise rfl
  have hst : Settles Sample.setup ((Sample.afterTurns Sample.oneByOne).apply (.holdSinks false))
      Sample.handedOneByOne := ⟨Sample.turns 0 5 ++ Sample.turns 1 5, rfl, rfl⟩
  have hst' : Settles Sample.setup ((Sample.afterTurns Sample.crosswise).apply (.holdSinks false))
      Sample.handedCrosswise :=
    ⟨Sample.turns 1 2 ++ Sample.turns 0 2 ++ Sample.turns 1 3 ++ Sample.turns 0 3, rfl, rfl⟩
  have hroles : (Sample.oneByOne.map (·.1) ++ [Input.holdSinks false]).filterMap Input.role? =
      [Role.watcher "main"] := rfl
  obtain ⟨-, hperm, -, -, -, -, hrefusals⟩ := h.same_in_every_order hst h' hst' (.inr hroles)
  have hfour : Sample.handedOneByOne.trace.ledger.count (Ledger.sinkFailures "down") = 4 := rfl
  exact ⟨h, h', hst, hst', hroles, rfl, rfl, hperm 0, hfour,
    hrefusals "down" (fun sink hsink _ => Sample.isOrderBlind_setup sink hsink) ▸ hfour⟩

namespace Sample

/-- A sink that refuses the report on a lack of space if it is the first one of all. -/
def fullAtFirst : Setup where
  space := "databases"
  sinks := [{ name := "down", respond := fun earlier report =>
    if earlier.isEmpty && report == full then some (.unreachable "refused") else none }]

/-- A backup of one schedule that failed. -/
def failedOf (schedule name error : String) : Object :=
  { backup name [("phase", .string "failed"), ("error", .string error)] with
    owners := some [{ kind := "ScheduledBackup", name := schedule }] }

/-- Either of two trackers has a failure of its own for the sink, which is held. -/
def apart : List (Input × List TaskId) :=
  [(.items .scheduledBackup
      [schedule (some "nightly") (.string "main"), schedule (some "weekly") (.string "main")], []),
    (.start (.watcher "main"), List.replicate 5 (.watcher 0) ++ turns 0 5 ++ turns 1 5),
    (.holdSinks true, []),
    (.event .backup { change := .modified, object := failedOf "nightly" "b1" "disk full" },
      turns 0 1 ++ turns 1 1),
    (.event .backup { change := .modified, object := failedOf "weekly" "b2" "timeout" },
      turns 1 1)]

/-- The system after these inputs, if the sink minds which report comes first. -/
def afterTurnsAtFirst (all : List (Input × List TaskId)) : System :=
  (({} : System).session? fullAtFirst all).getD {}

/-- A watcher takes that many steps. -/
def rounds (index count : Nat) : List TaskId :=
  List.replicate count (.watcher index)

/-- Three watchers of one cluster share the tracker of a schedule. -/
def threefold : List (Input × List TaskId) :=
  [(.items .scheduledBackup [schedule (some "nightly") (.string "main")], []),
    (.start (.watcher "main"), rounds 0 5 ++ turns 0 5),
    (.start (.watcher "main"), rounds 1 5),
    (.start (.watcher "main"), rounds 2 5)]

/-- All their watches end. They stop the tracker, list again, and share a new one. -/
def together : List (Input × List TaskId) :=
  threefold ++ [(.close .scheduledBackup, rounds 0 1 ++ rounds 1 1 ++ rounds 2 1 ++ turns 0 1 ++
    rounds 0 5 ++ rounds 1 5 ++ rounds 2 5 ++ turns 1 5)]

/-- The third watcher sees the end of its watch when the first one has listed again already. It
stops the new tracker, and then waits for that of the second one to finish as well. -/
def leftBehind : List (Input × List TaskId) :=
  threefold ++ [(.close .scheduledBackup, rounds 0 1 ++ rounds 1 1 ++ turns 0 1 ++ rounds 0 5 ++
    rounds 2 1 ++ rounds 1 5 ++ turns 1 2 ++ turns 2 5)]

/-- The watches end again: all three of them. -/
def endedTogether : System :=
  afterTurns (together ++ [(.close .scheduledBackup, rounds 0 1 ++ rounds 1 1 ++ rounds 2 1 ++
    turns 1 1 ++ rounds 0 5 ++ rounds 1 5 ++ rounds 2 5 ++ turns 2 5)])

/-- The watches end again: the third watcher has none. -/
def endedBehind : System :=
  afterTurns (leftBehind ++ [(.close .scheduledBackup, rounds 0 1 ++ rounds 1 1 ++ turns 2 1 ++
    rounds 0 5 ++ rounds 1 5 ++ rounds 2 5 ++ turns 3 5)])

end Sample

/-- The order does show in the counters in two cases. A sink may refuse one report only if it comes
before another one; then the refusals that are counted depend on the order of the trackers. And if
several watchers share their trackers, one of them may have to wait for the trackers of another one;
then it has no watch when the watches end, and one restart less is counted. -/
theorem System.order_shows_in_counters :
    (¬ ∀ (setup : Setup) (inputs : List Input) (input : Input) (s t s' t' : System),
      Session setup {} inputs s → Settles setup (s.apply input) t →
      Session setup {} inputs s' → Settles setup (s'.apply input) t' →
      (inputs ++ [input]).filterMap Input.role? = [.watcher "main"] →
      ∀ counter, t.trace.ledger.count counter = t'.trace.ledger.count counter) ∧
    ¬ ∀ (setup : Setup) (inputs : List Input) (input : Input) (s t s' t' : System),
      Session setup {} inputs s → Settles setup (s.apply input) t →
      Session setup {} inputs s' → Settles setup (s'.apply input) t' →
      (∀ role ∈ (inputs ++ [input]).filterMap Input.role?, role = .watcher "main") →
      (∀ sink ∈ setup.sinks, sink.IsOrderBlind) →
      ∀ counter, t.trace.ledger.count counter = t'.trace.ledger.count counter := by
  constructor
  · intro hclaim
    have h : Session Sample.fullAtFirst {} (Sample.apart.map (·.1))
        (Sample.afterTurnsAtFirst Sample.apart) :=
      Session.start.of_session? Sample.apart rfl
    have hfirst : Settles Sample.fullAtFirst
        ((Sample.afterTurnsAtFirst Sample.apart).apply (.holdSinks false))
        (Sample.afterTurnsAtFirst
          (Sample.apart ++ [(.holdSinks false, Sample.turns 0 2 ++ Sample.turns 1 1)])) :=
      ⟨Sample.turns 0 2 ++ Sample.turns 1 1, rfl, rfl⟩
    have hsecond : Settles Sample.fullAtFirst
        ((Sample.afterTurnsAtFirst Sample.apart).apply (.holdSinks false))
        (Sample.afterTurnsAtFirst
          (Sample.apart ++ [(.holdSinks false, Sample.turns 1 1 ++ Sample.turns 0 2)])) :=
      ⟨Sample.turns 1 1 ++ Sample.turns 0 2, rfl, rfl⟩
    have hsame : 1 = 0 :=
      hclaim _ _ _ _ _ _ _ h hfirst h hsecond rfl (Ledger.sinkFailures "down")
    cases hsame
  · intro hclaim
    have h : Session Sample.setup {} (Sample.together.map (·.1))
        (Sample.afterTurns Sample.together) :=
      Session.start.of_session? Sample.together rfl
    have h' : Session Sample.setup {} (Sample.together.map (·.1))
        (Sample.afterTurns Sample.leftBehind) :=
      Session.start.of_session? Sample.leftBehind rfl
    have hst : Settles Sample.setup
        ((Sample.afterTurns Sample.together).apply (.close .scheduledBackup))
        Sample.endedTogether :=
      ⟨Sample.rounds 0 1 ++ Sample.rounds 1 1 ++ Sample.rounds 2 1 ++ Sample.turns 1 1 ++
        Sample.rounds 0 5 ++ Sample.rounds 1 5 ++ Sample.rounds 2 5 ++ Sample.turns 2 5, rfl, rfl⟩
    have hst' : Settles Sample.setup
        ((Sample.afterTurns Sample.leftBehind).apply (.close .scheduledBackup))
        Sample.endedBehind :=
      ⟨Sample.rounds 0 1 ++ Sample.rounds 1 1 ++ Sample.turns 2 1 ++ Sample.rounds 0 5 ++
        Sample.rounds 1 5 ++ Sample.rounds 2 5 ++ Sample.turns 3 5, rfl, rfl⟩
    have hsame : 6 = 5 :=
      hclaim _ _ _ _ _ _ _ h hst h' hst' (by decide) Sample.isOrderBlind_setup
        (Ledger.labelled "warden_stream_restarts_total" "resource" "scheduledbackups")
    cases hsame

end BackupMonitor
