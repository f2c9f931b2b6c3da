import BackupMonitor.Agent.Run
import BackupMonitor.Proofs.ClusterSchedules
import BackupMonitor.Proofs.RunOutcome

/-!
# An unknown state means that the agent dies

Trackers report how backups ended, and nothing else. That the state is unknown is reported by an
agent of which a step fails, at the very end and with the text that it exits with.

* `Agent.Reaches`: what a run of the agent can come to, with any sinks under the selected names and
  its tasks in any order. `Agent.run_reaches` finds such a run in `Agent.run`.
* `Agent.FailsBy`: why a step of the agent fails.
* `Agent.Exits`: what is known of an agent that has exited.
* `Agent.unknown_iff_dies`: who is told what.
-/

namespace BackupMonitor

open Occurrence

namespace Agent

variable {settings : AgentSettings} {around : Surroundings} {setup : Setup} {s : System}
  {deliveries : List Delivery} {exit : Option AgentExit}

/-! ## Runs of the agent -/

/-- What a run of the agent can come to: the system of its tasks, what was handed to the sinks, and
how it has ended, if it has. The sinks have the names of those that were selected but answer as they
like, whatever comes in while the schedules are watched starts no task, and the tasks take their
steps in any order. -/
inductive Reaches (settings : AgentSettings) (around : Surroundings) (setup : Setup) :
    System → List Delivery → Option AgentExit → Prop where
  /-- The sinks cannot be built. -/
  | noSinks {error : SinkError} (hstart : startup settings around = .noSinks error) :
      Reaches settings around setup {} [] (some (failWithoutSinks error))
  /-- A step after that fails. -/
  | failed {choices : List SinkChoice} {step : String} {error : TaskError}
      (hstart : startup settings around = .failed choices step error)
      (hnames : setup.sinks.map (·.name) = choices.map (·.name)) :
      Reaches settings around setup {} (fail setup.sinks [] step error).deliveries
        (some (fail setup.sinks [] step error))
  /-- The schedules of a cluster are watched, until the watcher has finished. -/
  | watching {choices : List SinkChoice} {cluster : String} {s : System}
      (hstart : startup settings around = .watching choices cluster)
      (hnames : setup.sinks.map (·.name) = choices.map (·.name))
      (hspace : setup.space = settings.space) (hrun : System.WatcherRun setup cluster s) :
      Reaches settings around setup s
        (s.trace.deliveries ++ ((exitOf? setup.sinks s).map (·.deliveries)).getD [])
        (exitOf? setup.sinks s)

/-- The sinks that are selected have the names under which they are. -/
lemma map_name_sinks (around : Surroundings) (choices : List SinkChoice) :
    (sinks around choices).map (·.name) = choices.map (·.name) := by
  unfold sinks
  rw [List.map_map]
  refine List.map_congr_left fun choice _ => ?_
  cases choice <;> rfl

/-- The schedules are watched as in a run of a watcher. -/
lemma watcherRun_watch (setup : Setup) (cluster : String) {batches : List (List Input)}
    (hroles : ∀ batch ∈ batches, batch.filterMap Input.role? = []) :
    System.WatcherRun setup cluster (watch setup cluster batches) := by
  have hrest {s : System} (h : System.WatcherRun setup cluster s) :
      System.WatcherRun setup cluster (batches.foldl (fun s batch => s.advance setup batch) s) := by
    induction batches generalizing s with
    | nil => exact h
    | cons batch batches ih =>
      exact ih (fun other hother => hroles other (List.mem_cons_of_mem _ hother))
        (h.leadsTo (System.leadsTo_advance setup s (hroles batch List.mem_cons_self)))
  exact hrest (System.watcherRun_advance setup cluster)

/-- The run of an agent whose tasks run in the order of waking is such a run. -/
theorem run_reaches (settings : AgentSettings) (around : Surroundings)
    {batches : List (List Input)} (hroles : ∀ batch ∈ batches, batch.filterMap Input.role? = []) :
    ∃ setup s, Reaches settings around setup s (run settings around batches).deliveries
      (run settings around batches).exit := by
  unfold run
  cases hstart : startup settings around with
  | noSinks error => exact ⟨setup settings around [], {}, .noSinks hstart⟩
  | failed choices step error =>
    exact ⟨setup settings around choices, {}, .failed hstart (map_name_sinks around choices)⟩
  | watching choices cluster =>
    exact ⟨setup settings around choices, _, .watching hstart (map_name_sinks around choices) rfl
      (watcherRun_watch _ cluster hroles)⟩

/-! ## Why an agent dies -/

/-- Why a step of an agent fails, once its sinks are built. -/
inductive FailsBy (settings : AgentSettings) (around : Surroundings) (s : System) :
    String → TaskError → Prop where
  /-- No client can be made. -/
  | client {failure : Api.Failure} (hclient : around.clientFailure = some failure) :
      FailsBy settings around s clientStep (.api failure)
  /-- The version cannot be told. -/
  | version {failure : Api.Failure} (hclient : around.clientFailure = none)
      (hversion : Api.versionResult around.version = .error failure) :
      FailsBy settings around s versionStep (.api failure)
  /-- The pod cannot be told, or is not owned by a single cluster. -/
  | owner {version : String} {error : TaskError} (hclient : around.clientFailure = none)
      (hversion : Api.versionResult around.version = .ok version)
      (howner : Api.clusterResult settings.podName settings.space around.pod = .error error) :
      FailsBy settings around s clusterStep error
  /-- A call of the watcher was refused, and the watcher has finished because of that. -/
  | call {cluster : String} {before : List Occurrence} {query : Query} {error : TaskError}
      (hcluster : clusterOf settings around = .ok cluster)
      (hkind : query.kind = .scheduledBackup)
      (hlast : exchange (s.trace.ofTask (.watcher 0)) =
        before ++ [.called ⟨settings.space, query⟩, .refused error, .finished (some error)]) :
      FailsBy settings around s watchStep error

/-- The cluster of an agent is the one owner of its pod. -/
lemma clusterOf_eq_ok_iff {cluster : String} : clusterOf settings around = .ok cluster ↔
    around.clientFailure = none ∧
      (∃ version, Api.versionResult around.version = .ok version) ∧
      ∃ owner, Api.podResult settings.podName settings.space around.pod = .ok [owner] ∧
        owner.kind = "Cluster" ∧ owner.name = cluster := by
  unfold clusterOf
  cases around.clientFailure with
  | some failure => simp
  | none =>
    cases Api.versionResult around.version with
    | error failure => simp
    | ok version =>
      unfold Api.clusterResult
      cases Api.podResult settings.podName settings.space around.pod with
      | error failure => simp
      | ok owners =>
        -- none, one or several: only the single owner is looked at
        match owners with
        | [] => simp [clusterOfOwners]
        | [owner] =>
          by_cases hkind : owner.kind = "Cluster" <;>
            simp [clusterOfOwners, clusterKind, hkind]
        | _ :: _ :: _ => simp [clusterOfOwners]

/-- An agent that finds no cluster fails by a step before it watches. -/
lemma FailsBy.of_clusterOf {step : String} {error : TaskError}
    (h : clusterOf settings around = .error (step, error)) (s : System) :
    FailsBy settings around s step error := by
  unfold clusterOf at h
  split at h
  next failure hclient =>
    obtain ⟨rfl, rfl⟩ := Prod.mk.inj (Except.error.inj h)
    exact .client hclient
  next hclient =>
    split at h
    next failure hversion =>
      obtain ⟨rfl, rfl⟩ := Prod.mk.inj (Except.error.inj h)
      exact .version hclient hversion
    next version hversion =>
      split at h
      next e howner =>
        obtain ⟨rfl, rfl⟩ := Prod.mk.inj (Except.error.inj h)
        exact .owner hclient hversion howner
      next => cases h

/-- How far an agent gets is decided by the selection of its sinks and by its cluster. -/
lemma startup_eq_noSinks_iff {error : SinkError} : startup settings around = .noSinks error ↔
    choicesOf settings around = .error error := by
  unfold startup
  cases choicesOf settings around with
  | error e => simp
  | ok choices => cases clusterOf settings around <;> simp

lemma startup_eq_failed_iff {choices : List SinkChoice} {step : String} {error : TaskError} :
    startup settings around = .failed choices step error ↔
      choicesOf settings around = .ok choices ∧
        clusterOf settings around = .error (step, error) := by
  unfold startup
  cases choicesOf settings around with
  | error e => simp
  | ok choices =>
    cases clusterOf settings around with
    | error failure => simp [Prod.ext_iff]
    | ok cluster => simp

lemma startup_eq_watching_iff {choices : List SinkChoice} {cluster : String} :
    startup settings around = .watching choices cluster ↔
      choicesOf settings around = .ok choices ∧
        clusterOf settings around = .ok cluster := by
  unfold startup
  cases choicesOf settings around with
  | error e => simp
  | ok choices => cases clusterOf settings around <;> simp

/-! ## The end of a run -/

/-- The exit of an agent whose watcher has finished. -/
def exitAfter (sinks : List Sink) (s : System) : Option TaskError → AgentExit
  | none => succeed
  | some e => fail sinks s.trace.deliveries watchStep e

lemma exitOf?_eq (sinks : List Sink) (s : System) :
    exitOf? sinks s = s.result?.map (exitAfter sinks s) := by
  unfold exitOf?
  cases s.result? with
  | none => rfl
  | some error => cases error <;> rfl

/-- What an agent hands out at its end tells of a call of the watcher that failed. -/
lemma exists_of_mem_exit {sinks : List Sink} {d : Delivery}
    (hd : d ∈ ((exitOf? sinks s).map (·.deliveries)).getD []) :
    ∃ error, exitOf? sinks s = some (fail sinks s.trace.deliveries watchStep error) ∧
      d ∈ (fail sinks s.trace.deliveries watchStep error).deliveries := by
  rw [exitOf?_eq] at hd ⊢
  cases hresult : s.result? with
  | none =>
    rw [hresult] at hd
    cases hd
  | some result =>
    rw [hresult] at hd
    cases result with
    | none => cases hd
    | some error => exact ⟨error, rfl, hd⟩

lemma code_fail (sinks : List Sink) (earlier : List Delivery) (step : String) (error : TaskError) :
    (fail sinks earlier step error).code = 1 := rfl

/-- What is known of an agent that has exited. -/
structure Exits (settings : AgentSettings) (around : Surroundings) (setup : Setup) (s : System)
    (deliveries : List Delivery) (x : AgentExit) : Prop where
  /-- The exit code is zero if the watcher has finished without an error, and only then. -/
  zero : x.code = 0 ↔ s.phase? (.watcher 0) = some (.finished none)
  /-- In that case the watcher was cancelled. -/
  cancelled : x.code = 0 → s.isCancelled (.watcher 0) = true
  /-- Otherwise a step has failed, and the last thing that every sink was handed is the report of an
  unknown state with the text that the agent exits with. It is the only such report. -/
  told : x.code ≠ 0 → ∃ step error, FailsBy settings around s step error ∧
    x.error = some (step ++ ": " ++ error.message) ∧
    ∀ place < setup.sinks.length, ∃ before,
      Delivery.reportsAt place deliveries =
        before ++ [.unknown (step ++ ": " ++ error.message)] ∧
      ∀ report ∈ before, report.isUnknown = false
  /-- What the agent hands out at its end follows what the trackers have handed out. -/
  last : deliveries = s.trace.deliveries ++ x.deliveries
  /-- All trackers have finished. -/
  running : s.roster.running = 0
  /-- No task does anything any more. -/
  ended : ∀ later, System.LeadsTo setup s later → later.trace = s.trace

/-- What an agent hands out because a step failed comes after reports on outcomes. -/
lemma reportsAt_append_fail {earlier : List Delivery} (step : String) (error : TaskError)
    (hearlier : ∀ d ∈ earlier, d.report.isUnknown = false) {place : Nat}
    (hplace : place < setup.sinks.length) :
    ∃ before, Delivery.reportsAt place
        (earlier ++ (fail setup.sinks earlier step error).deliveries) =
          before ++ [.unknown (step ++ ": " ++ error.message)] ∧
      ∀ report ∈ before, report.isUnknown = false := by
  refine ⟨Delivery.reportsAt place earlier, ?_, fun report hreport => ?_⟩
  · rw [Delivery.reportsAt_append]
    exact congrArg _ (reportsAt_fanOut hplace)
  · obtain ⟨d, hd, -, rfl⟩ := Delivery.mem_reportsAt.mp hreport
    exact hearlier d hd

/-- An agent that fails before it watches has no tasks. -/
lemma exits_of_failed {step : String} {error : TaskError}
    (hcluster : clusterOf settings around = .error (step, error)) :
    Exits settings around setup {} (fail setup.sinks [] step error).deliveries
      (fail setup.sinks [] step error) where
  zero := by
    rw [code_fail]
    constructor <;> (intro h; cases h)
  cancelled h := by
    rw [code_fail] at h
    cases h
  told _ := ⟨step, error, .of_clusterOf hcluster {}, rfl,
    fun _ hplace =>
      reportsAt_append_fail step error (fun _ hd => absurd hd List.not_mem_nil) hplace⟩
  last := rfl
  running := rfl
  ended later hlater := (System.IsIdle.empty.leadsTo hlater).trace

/-- An agent whose watcher has finished exits with its error. -/
lemma exits_of_finished {cluster : String} (hcluster : clusterOf settings around = .ok cluster)
    (hspace : setup.space = settings.space) (hrun : System.WatcherRun setup cluster s)
    {error : Option TaskError} (hphase : s.phase? (.watcher 0) = some (.finished error)) :
    Exits settings around setup s (s.trace.deliveries ++ (exitAfter setup.sinks s error).deliveries)
      (exitAfter setup.sinks s error) := by
  obtain ⟨hrunning, hended⟩ := hrun.over_of_finished hphase
  cases error with
  | none =>
    exact {
      zero := ⟨fun _ => hphase, fun _ => rfl⟩
      cancelled := fun _ => hrun.reachable.isCancelled_of_isBrokenOff hphase rfl
      told := fun hcode => absurd rfl hcode
      last := rfl
      running := hrunning
      ended := hended }
  | some error =>
    -- the last call of the watcher was refused with that error
    obtain ⟨before, query, message, hlast, hkind, -⟩ :=
      (hrun.reachable.dialogue hphase).exists_of_finished
    rw [hspace] at hlast
    have hcode : (exitAfter setup.sinks s (some error)).code = 1 := code_fail ..
    exact {
      zero := by
        rw [hcode, hphase]
        simp
      cancelled := fun h => by
        rw [hcode] at h
        cases h
      told := fun _ => ⟨watchStep, error, .call hcluster hkind hlast, rfl,
        fun _ hplace => reportsAt_append_fail watchStep error
          (fun _ hd => hrun.reachable.isUnknown_eq_false hd) hplace⟩
      last := rfl
      running := hrunning
      ended := hended }

/-! ## What holds of every run -/

namespace Reaches

/-- If the sinks cannot be built nobody is told, and the agent exits with an error. -/
lemma of_select_error (h : Reaches settings around setup s deliveries exit) {error : SinkError}
    (hselect : choicesOf settings around = .error error) :
    deliveries = [] ∧ ∃ x, exit = some x ∧ x.code ≠ 0 := by
  have hstart : startup settings around = .noSinks error := startup_eq_noSinks_iff.mpr hselect
  cases h with
  | noSinks => exact ⟨rfl, _, rfl, Nat.one_ne_zero⟩
  | failed hfailed => cases hstart.symm.trans hfailed
  | watching hwatching => cases hstart.symm.trans hwatching

/-- The sinks have the names of those that were selected. -/
lemma names (h : Reaches settings around setup s deliveries exit) {choices : List SinkChoice}
    (hselect : choicesOf settings around = .ok choices) :
    setup.sinks.map (·.name) = choices.map (·.name) := by
  -- the run made the same selection
  have hsame {others : List SinkChoice} (hothers :
      choicesOf settings around = .ok others) : others = choices :=
    Except.ok.inj (hothers.symm.trans hselect)
  cases h with
  | noSinks hstart => cases hselect.symm.trans (startup_eq_noSinks_iff.mp hstart)
  | failed hstart hnames => exact hsame (startup_eq_failed_iff.mp hstart).1 ▸ hnames
  | watching hstart hnames => exact hsame (startup_eq_watching_iff.mp hstart).1 ▸ hnames

/-- An agent that has built its sinks and exits leaves nothing running. -/
lemma exits (h : Reaches settings around setup s deliveries exit) {choices : List SinkChoice}
    (hselect : choicesOf settings around = .ok choices)
    {x : AgentExit} (hx : exit = some x) : Exits settings around setup s deliveries x := by
  cases h with
  | noSinks hstart => cases hselect.symm.trans (startup_eq_noSinks_iff.mp hstart)
  | failed hstart =>
    obtain rfl := Option.some.inj hx
    exact exits_of_failed (startup_eq_failed_iff.mp hstart).2
  | watching hstart _ hspace hrun =>
    obtain ⟨error, hresult, rfl⟩ := Option.map_eq_some_iff.mp ((exitOf?_eq _ s).symm.trans hx)
    rw [hx]
    exact exits_of_finished (startup_eq_watching_iff.mp hstart).2 hspace hrun
      (hrun.result?_eq_some_iff.mp hresult)

/-- An agent that has not exited watches schedules. -/
lemma of_eq_none (h : Reaches settings around setup s deliveries exit) (hx : exit = none) :
    ∃ cluster, clusterOf settings around = .ok cluster ∧
      ∀ error, s.phase? (.watcher 0) ≠ some (.finished error) := by
  cases h with
  | noSinks => cases hx
  | failed => cases hx
  | watching hstart _ _ hrun =>
    refine ⟨_, (startup_eq_watching_iff.mp hstart).2, fun error hphase => ?_⟩
    rw [exitOf?_eq, hrun.result?_eq_some_iff.mpr hphase] at hx
    cases hx

/-- An agent that has not exited with an error has reported no unknown state. -/
lemma isUnknown_eq_false (h : Reaches settings around setup s deliveries exit)
    (hzero : ∀ x, exit = some x → x.code = 0) {d : Delivery} (hd : d ∈ deliveries) :
    d.report.isUnknown = false := by
  cases h with
  | noSinks => cases hd
  | failed =>
    have hcode := hzero _ rfl
    rw [code_fail] at hcode
    cases hcode
  | watching _ _ _ hrun =>
    rcases List.mem_append.mp hd with hd | hd
    · exact hrun.reachable.isUnknown_eq_false hd
    · obtain ⟨error, hexit, -⟩ := exists_of_mem_exit hd
      have hcode := hzero _ hexit
      rw [code_fail] at hcode
      cases hcode

/-- Every report on an outcome was handed out by a tracker, and an event that it took makes it. -/
lemma exists_contribution (h : Reaches settings around setup s deliveries exit) {d : Delivery}
    (hd : d ∈ deliveries) (hknown : d.report.isUnknown = false) :
    ∃ index t event, s.roster.trackers[index]? = some t ∧
      .delivered d ∈ s.trace.ofTask (.tracker index) ∧
      .took event ∈ s.trace.ofTask (.tracker index) ∧
      event.Contributes t.schedule d.report := by
  have hfail {earlier : List Delivery} {step : String} {error : TaskError} {Q : Prop}
      (hd : d ∈ (fail setup.sinks earlier step error).deliveries) : Q := by
    rw [report_of_mem_fanOutFrom hd] at hknown
    cases hknown
  cases h with
  | noSinks => cases hd
  | failed => exact hfail hd
  | watching _ _ _ hrun =>
    rcases List.mem_append.mp hd with hd | hd
    · obtain ⟨index, t, event, ht, hdelivered, htook, hreport⟩ :=
        hrun.reachable.exists_contribution hd
      exact ⟨index, t, event, ht, hdelivered, htook, Event.report?_eq_some_iff.mp hreport⟩
    · obtain ⟨error, -, hd⟩ := exists_of_mem_exit hd
      exact hfail hd

/-- Every tracker is for a schedule of the cluster that is the one owner of the pod. -/
lemma exists_owner (h : Reaches settings around setup s deliveries exit) {t : Tracker}
    (ht : t ∈ s.roster.trackers) :
    around.clientFailure = none ∧
      (∃ version, Api.versionResult around.version = .ok version) ∧
      ∃ owner, Api.podResult settings.podName settings.space around.pod = .ok [owner] ∧
        owner.kind = "Cluster" ∧
        ∃ schedule, IsTold (s.trace.ofTask (.watcher 0)) schedule ∧
          schedule.name = some t.schedule ∧
          schedule.scheduleCluster = .ok (some owner.name) := by
  cases h with
  | noSinks => cases ht
  | failed => cases ht
  | watching hstart _ _ hrun =>
    obtain ⟨hclient, hversion, owner, howner, hkind, rfl⟩ :=
      clusterOf_eq_ok_iff.mp (startup_eq_watching_iff.mp hstart).2
    exact ⟨hclient, hversion, owner, howner, hkind, hrun.exists_told ht⟩

end Reaches

/-- An unknown state is reported exactly if the agent dies, in the runs of `Agent.run` as in those
in which the sinks answer as they like and the tasks take their steps in any order.

If the sinks cannot be built, no sink is ever handed anything and the exit code is not zero. If they
are built, every one of the selected sinks is handed one report of an unknown state if the agent
exits with a code other than zero (`Exits.told`), after all trackers have finished and as the last
report of all, and otherwise none. An agent that has not exited is watching. Every other report was
handed out by a tracker that took an event which makes the report, and every tracker is for a
schedule of the cluster that was found to be the one owner of the pod, once a client was made and
the version of the server was told. -/
theorem unknown_iff_dies (settings : AgentSettings) (around : Surroundings) :
    (∀ batches : List (List Input), (∀ batch ∈ batches, batch.filterMap Input.role? = []) →
      ∃ setup s, Reaches settings around setup s (run settings around batches).deliveries
        (run settings around batches).exit) ∧
    ∀ setup s deliveries exit, Reaches settings around setup s deliveries exit →
      (∀ error, choicesOf settings around = .error error →
        deliveries = [] ∧ ∃ x, exit = some x ∧ x.code ≠ 0) ∧
      (∀ choices, choicesOf settings around = .ok choices →
        setup.sinks.map (·.name) = choices.map (·.name) ∧
        (∀ x, exit = some x → Exits settings around setup s deliveries x) ∧
        ((∀ x, exit = some x → x.code = 0) → ∀ d ∈ deliveries, d.report.isUnknown = false) ∧
        (exit = none → ∃ cluster, clusterOf settings around = .ok cluster ∧
          ∀ error, s.phase? (.watcher 0) ≠ some (.finished error))) ∧
      (∀ d ∈ deliveries, d.report.isUnknown = false →
        ∃ index t event, s.roster.trackers[index]? = some t ∧
          .delivered d ∈ s.trace.ofTask (.tracker index) ∧
          .took event ∈ s.trace.ofTask (.tracker index) ∧
          event.Contributes t.schedule d.report) ∧
      ∀ t ∈ s.roster.trackers,
        around.clientFailure = none ∧
        (∃ version, Api.versionResult around.version = .ok version) ∧
        ∃ owner, Api.podResult settings.podName settings.space around.pod = .ok [owner] ∧
          owner.kind = "Cluster" ∧
          ∃ schedule, IsTold (s.trace.ofTask (.watcher 0)) schedule ∧
            schedule.name = some t.schedule ∧
            schedule.scheduleCluster = .ok (some owner.name) := by
  refine ⟨fun batches hroles => run_reaches settings around hroles,
    fun setup s deliveries exit h => ⟨fun error hselect => h.of_select_error hselect,
      fun choices hselect => ⟨h.names hselect, fun x hx => h.exits hselect hx,
        fun hzero d hd => h.isUnknown_eq_false hzero hd, h.of_eq_none⟩,
      fun d hd hknown => h.exists_contribution hd hknown, fun t ht => h.exists_owner ht⟩⟩

end Agent

namespace Sample

/-- The settings of an agent that discards its reports twice. -/
def discarding : AgentSettings where
  podName := "pg-main-1"
  space := "databases"
  outputModules := ["void", " void "]

/-- A server that tells its version, and that the cluster `main` owns the pod. -/
def answering : Surroundings where
  version := .answered 200
    (Json.object (["major", "minor", "gitVersion", "gitCommit", "gitTreeState", "buildDate",
      "goVersion", "compiler", "platform"].map fun name => (name, .string "1"))).chars false
  pod := .answered 200
    (Json.object [("metadata", .object [("ownerReferences", .array [.object
      [("apiVersion", .string "postgresql.cnpg.io/v1"), ("kind", .string "Cluster"),
        ("name", .string "main"), ("uid", .string "u1")]])])]).chars false
  network := SubmitAnswer.unreachable

/-- Two sinks under the names of that agent, the first of which takes nothing. -/
def discards : Setup where
  space := "databases"
  sinks := [{ name := "void", respond := fun _ _ => some (.unreachable "refused") }, .void]

/-- The system whose watcher has been refused its watch. -/
def dying : System :=
  (({} : System).play discards refusedWatch).getD {}

/-- How the agent exits then. -/
def death : AgentExit :=
  Agent.fail discards.sinks dying.trace.deliveries Agent.watchStep
    (.call .watch "scheduledbackups" "gone")

end Sample

/-- An agent whose watcher is refused its watch hands both sinks, of which the first takes nothing,
the failure that a tracker has still reported, and after that the unknown state. -/
theorem Agent.unknown_iff_dies_refusedWatch :
    Agent.Reaches Sample.discarding Sample.answering Sample.discards Sample.dying
        (Sample.dying.trace.deliveries ++ Sample.death.deliveries) (some Sample.death) ∧
      Sample.death.code = 1 ∧
      Sample.death.error =
        some "error watching scheduled backups: failed to watch scheduledbackups: gone" ∧
      Sample.dying.roster.running = 0 ∧
      ∀ place < 2, ∃ before, Delivery.reportsAt place
          (Sample.dying.trace.deliveries ++ Sample.death.deliveries) = before ++
            [.unknown "error watching scheduled backups: failed to watch scheduledbackups: gone"] ∧
        ∀ report ∈ before, report.isUnknown = false := by
  -- both answers are texts that have to be read
  have hversion : ∃ version, Api.versionResult Sample.answering.version = .ok version := by
    have hread : (Api.versionResult Sample.answering.version).toOption = some "1" := by
      decide +kernel
    cases h : Api.versionResult Sample.answering.version with
    | ok version => exact ⟨version, rfl⟩
    | error failure =>
      rw [h] at hread
      cases hread
  have howner : Api.podResult "pg-main-1" "databases" Sample.answering.pod =
      .ok [{ kind := "Cluster", name := "main" }] := by
    have hread : (Api.podResult "pg-main-1" "databases" Sample.answering.pod).toOption =
        some [{ kind := "Cluster", name := "main" }] := by
      decide +kernel
    cases h : Api.podResult "pg-main-1" "databases" Sample.answering.pod with
    | ok owners =>
      rw [h] at hread
      exact congrArg Except.ok (Option.some.inj hread)
    | error failure =>
      rw [h] at hread
      cases hread
  have hselect : Agent.choicesOf Sample.discarding Sample.answering = .ok [.void, .void] := rfl
  have hstart : Agent.startup Sample.discarding Sample.answering =
      .watching [.void, .void] "main" :=
    Agent.startup_eq_watching_iff.mpr
      ⟨hselect, Agent.clusterOf_eq_ok_iff.mpr ⟨rfl, hversion, _, howner, rfl, rfl⟩⟩
  have hrun : System.WatcherRun Sample.discards "main" Sample.dying :=
    ⟨Sample.refusedWatch, rfl, rfl⟩
  have hreaches : Agent.Reaches Sample.discarding Sample.answering Sample.discards Sample.dying
      (Sample.dying.trace.deliveries ++ Sample.death.deliveries) (some Sample.death) :=
    .watching hstart rfl rfl hrun
  obtain ⟨-, hall⟩ := Agent.unknown_iff_dies Sample.discarding Sample.answering
  obtain ⟨-, hbuilt, -⟩ := hall _ _ _ _ hreaches
  obtain ⟨-, hexits, -⟩ := hbuilt _ hselect
  have hdeath := hexits _ rfl
  have htext : Sample.death.error =
      some "error watching scheduled backups: failed to watch scheduledbackups: gone" := rfl
  obtain ⟨step, error, -, herror, htold⟩ := hdeath.told Nat.one_ne_zero
  rw [htext] at herror
  rw [← Option.some.inj herror] at htold
  exact ⟨hreaches, rfl, htext, hdeath.running, htold⟩

end BackupMonitor
