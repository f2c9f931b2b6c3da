import BackupMonitor.Proofs.Refusals

/-!
# Failures of sinks are invisible to the engine

Two setups are alike if their sinks have the same names; how the sinks answer, and what they log,
may differ. Whatever a run does in one of them it does in the other, apart from the answers of the
sinks: `Trace.engine` is a trace without these, and `System.Agrees` relates two systems that are
the same up to them. A step leads from systems that agree to systems that agree
(`System.Agrees.step`), so a whole run does (`System.Agrees.play`), and what is read off the
engine's part of a trace is the same in both runs.
-/

namespace BackupMonitor

open Occurrence

/-! ## What is not up to the sinks -/

/-- Two setups whose sinks have the same names in the same order. How a sink answers, and what it
logs, is left open. -/
structure Setup.Alike (setup setup' : Setup) : Prop where
  /-- They are about the same namespace. -/
  space : setup.space = setup'.space
  /-- Their lists get the same versions. -/
  version : setup.version = setup'.version
  /-- Their sinks have the same names. -/
  names : setup.sinks.map (·.name) = setup'.sinks.map (·.name)

/-- A delivery without the answer to it. -/
def Delivery.unanswered (d : Delivery) : Delivery :=
  { d with error := none }

/-- What the engine did in this: log lines and refusals are left out, and a report is handed out
without an answer. -/
def Occurrence.engine? : Occurrence → Option Occurrence
  | logged _ => none
  | measured (.sinkFailure _) => none
  | delivered d => some (.delivered d.unanswered)
  | what => some what

/-- What the engine did according to a trace. -/
def Trace.engine (trace : Trace) : Trace :=
  trace.filterMap fun entry => entry.what.engine?.map (Entry.mk entry.task)

@[simp] lemma Occurrence.filterMap_engine?_logged (lines : List Log.Line) :
    (lines.map logged).filterMap engine? = [] := filterMap_map_eq_nil (fun _ => rfl) lines

/-- Two views that are the same but for what the tasks did so far and how the sinks answer. -/
structure View.Alike (view view' : View) : Prop where
  /-- The setups are alike. -/
  setup : view.setup.Alike view'.setup
  /-- The server is the same. -/
  server : view.server = view'.server
  /-- The sinks are held in both or in none. -/
  sinksHeld : view.sinksHeld = view'.sinksHeld
  /-- The task is cancelled in both or in none. -/
  cancelled : view.cancelled = view'.cancelled

namespace View.Alike

variable {view view' : View}

lemma answer (h : view.Alike view') {α : Type} (verb : Verb) (kind : ResourceKind) (success : α) :
    view.answer verb kind success = view'.answer verb kind success := by
  unfold View.answer
  rw [h.server]

lemma listing (h : view.Alike view') (kind : ResourceKind) :
    view.listing kind = view'.listing kind := by
  unfold View.listing
  rw [h.server, h.setup.version]

end View.Alike

/-! ## Steps of a tracker -/

namespace Tracker

variable {setup setup' : Setup} {view view' : View} {schedule : String}

/-- What an event comes to does not depend on the answers of the sinks. -/
lemma take_eq_of_alike (h : setup.Alike setup') (feed : Feed) (tracked : Tracked) (event : Event) :
    take setup schedule feed tracked event = take setup' schedule feed tracked event := by
  have hempty : setup.sinks.isEmpty = setup'.sinks.isEmpty := by
    rw [← List.isEmpty_map, h.names, List.isEmpty_map]
  simp only [take, hempty]

lemma proceed_eq_of_alike (h : view.Alike view') (stage : TrackerStage) :
    proceed view schedule stage = proceed view' schedule stage := by
  cases stage with
  | listing => simp only [proceed, h.listing, h.answer]
  | opening cursor => simp only [proceed, h.answer]
  | following feed tracked => simp only [proceed, take_eq_of_alike h.setup]
  | ready => simp only [proceed, h.setup.space]
  | listed cursor => simp only [proceed, h.setup.space]
  | _ => rfl

/-- What the engine does when it hands out a report does not depend on the answer. -/
lemma filterMap_engine?_answer (d : Delivery) (before after : List Log.Line) :
    (before.map logged ++ delivered d :: after.map logged ++ d.measurements.map measured).filterMap
      engine? = [delivered d.unanswered] := by
  have hrefusal : (d.measurements.map measured).filterMap engine? = [] := by
    unfold Delivery.measurements
    cases d.error with
    | none => rfl
    | some e => rfl
  rw [List.filterMap_append, List.filterMap_append, List.filterMap_cons, hrefusal,
    filterMap_engine?_logged, filterMap_engine?_logged]
  rfl

/-- Handing out a report leads to the same stage, whatever the answer. -/
lemma deliver_of_alike (h : view.Alike view') (feed : Feed) (tracked : Tracked) (report : Report)
    (place : Nat) :
    (deliver view feed tracked report place).1 = (deliver view' feed tracked report place).1 ∧
      (deliver view feed tracked report place).2.filterMap engine? =
        (deliver view' feed tracked report place).2.filterMap engine? := by
  have hlength : view.setup.sinks.length = view'.setup.sinks.length := by
    rw [← List.length_map, h.setup.names, List.length_map]
  have hname : view.setup.sinks[place]?.map (·.name) = view'.setup.sinks[place]?.map (·.name) := by
    rw [← List.getElem?_map, h.setup.names, List.getElem?_map]
  simp only [deliver]
  cases hsink : view.setup.sinks[place]? with
  | none =>
    rw [hsink, eq_comm, Option.map_none, Option.map_eq_none_iff] at hname
    rw [hname]
    exact ⟨rfl, rfl⟩
  | some sink =>
    rw [hsink, eq_comm, Option.map_some, Option.map_eq_some_iff] at hname
    obtain ⟨sink', hsink', hname⟩ := hname
    rw [hsink']
    refine ⟨by rw [hlength], ?_⟩
    rw [filterMap_engine?_answer, filterMap_engine?_answer]
    simp only [Sink.deliver, Delivery.unanswered, hname]

/-- A step of a tracker leads to the same stage, and the engine does the same. -/
lemma step_of_alike (h : view.Alike view') {t : Tracker} {stage : TrackerStage}
    {did : List Occurrence} (hstep : t.step view = some (stage, did)) :
    ∃ did', t.step view' = some (stage, did') ∧ did.filterMap engine? = did'.filterMap engine? := by
  obtain ⟨schedule, token, now⟩ := t
  -- a tracker that hands out nothing does the very same
  have hsame (h : step view ⟨schedule, token, now⟩ = step view' ⟨schedule, token, now⟩) :
      ∃ did', step view' ⟨schedule, token, now⟩ = some (stage, did') ∧
        did.filterMap engine? = did'.filterMap engine? :=
    ⟨did, h ▸ hstep, rfl⟩
  cases now with
  | delivering feed tracked report place =>
    obtain ⟨hstage, hdid⟩ := deliver_of_alike h feed tracked report place
    simp only [step, ← h.sinksHeld] at hstep ⊢
    split at hstep
    next => cases hstep
    next hheld =>
      have hdeliver : deliver view feed tracked report place = (stage, did) :=
        Option.some.inj hstep
      rw [hdeliver] at hstage hdid
      rw [if_neg hheld]
      exact ⟨(deliver view' feed tracked report place).2,
        congrArg some (Prod.ext hstage.symm rfl), hdid⟩
  | spawned => exact hsame rfl
  | finished error => exact hsame rfl
  | _ =>
    refine hsame ?_
    simp only [step, h.cancelled, proceed_eq_of_alike h]

end Tracker

/-- A watcher does not notice the sinks at all. -/
lemma Watcher.step_eq_of_alike {view view' : View} (h : view.Alike view') (r : Roster)
    (w : Watcher) : w.step view r = w.step view' r := by
  obtain ⟨cluster, stage⟩ := w
  cases stage with
  | spawned => simp only [step, greeting, h.setup.space]
  | draining next count => rfl
  | finished error => rfl
  | listing => simp only [step, proceed, h.cancelled, h.listing, h.answer]
  | opening cursor => simp only [step, proceed, h.cancelled, h.answer]
  | ready => simp only [step, proceed, h.cancelled, h.setup.space]
  | listed cursor => simp only [step, proceed, h.cancelled, h.setup.space]
  | following feed => simp only [step, proceed, h.cancelled]

/-! ## Systems that agree -/

namespace System

variable {setup setup' : Setup} {s s' next : System}

/-- Two systems are the same but for the answers of the sinks so far. -/
structure Agrees (s s' : System) : Prop where
  /-- The server is the same. -/
  server : s.server = s'.server
  /-- The sinks are held in both or in none. -/
  sinksHeld : s.sinksHeld = s'.sinksHeld
  /-- The tokens, the registry and the trackers are the same. -/
  roster : s.roster = s'.roster
  /-- The watchers are the same. -/
  watchers : s.watchers = s'.watchers
  /-- The engine did the same. -/
  trace : s.trace.engine = s'.trace.engine

/-- The server counts lists, which are no answers of sinks. -/
lemma serverAfter_engine (server : Server) (did : List Occurrence) :
    serverAfter server (did.filterMap engine?) = serverAfter server did := by
  unfold serverAfter
  induction did generalizing server with
  | nil => rfl
  | cons what did ih =>
    rw [List.filterMap_cons, List.foldl_cons]
    cases what with
    | measured m =>
      cases m with
      | sinkFailure sink => exact ih server
      | _ => exact ih server
    | logged line => exact ih server
    | _ => exact ih _

lemma engine_append (trace : Trace) (task : TaskId) (did : List Occurrence) :
    Trace.engine (trace ++ did.map (Entry.mk task)) =
      trace.engine ++ (did.filterMap engine?).map (Entry.mk task) := by
  unfold Trace.engine
  rw [List.filterMap_append, List.filterMap_map, List.map_filterMap]
  rfl

namespace Agrees

lemma view (h : s.Agrees s') (hsetup : setup.Alike setup') (token : Token) :
    (s.view setup token).Alike (s'.view setup' token) :=
  ⟨hsetup, h.server, h.sinksHeld, congrArg (·.tokens.isCancelled token) h.roster⟩

lemma apply (h : s.Agrees s') (input : Input) : (s.apply input).Agrees (s'.apply input) := by
  obtain ⟨server, held, roster, watchers, trace⟩ := s
  obtain ⟨server', held', roster', watchers', trace'⟩ := s'
  obtain ⟨rfl, rfl, rfl, rfl, htrace⟩ := h
  cases input with
  | start role => cases role <;> exact ⟨rfl, rfl, rfl, rfl, htrace⟩
  | _ => exact ⟨rfl, rfl, rfl, rfl, htrace⟩

/-- Systems that agree and in which the engine does the same agree afterwards. -/
lemma record (h : s.Agrees s') (task : TaskId) {did did' : List Occurrence}
    (hdid : did.filterMap engine? = did'.filterMap engine?) :
    (s.record task did).Agrees (s'.record task did') := by
  refine ⟨?_, h.sinksHeld, h.roster, h.watchers, ?_⟩
  · show serverAfter s.server did = serverAfter s'.server did'
    rw [← serverAfter_engine, hdid, serverAfter_engine, h.server]
  · show Trace.engine (s.trace ++ did.map (Entry.mk task)) =
      Trace.engine (s'.trace ++ did'.map (Entry.mk task))
    rw [engine_append, engine_append, h.trace, hdid]

/-- What a task can do in one system it can do in the other, and they agree afterwards. -/
theorem step (h : s.Agrees s') (hsetup : setup.Alike setup') {task : TaskId}
    (hstep : s.step setup task = some next) :
    ∃ next', s'.step setup' task = some next' ∧ next.Agrees next' := by
  cases task with
  | watcher index =>
    simp only [System.step] at hstep ⊢
    rw [← h.watchers, ← h.roster]
    split at hstep
    next => cases hstep
    next w hw =>
      rw [Watcher.step_eq_of_alike (h.view hsetup Tokens.root)] at hstep
      split at hstep
      next => cases hstep
      next change hchange =>
        obtain rfl := Option.some.inj hstep
        have hmoved : Agrees
            { s with
              roster := change.roster
              watchers := s.watchers.modify index ({ · with stage := change.stage }) }
            { s' with
              roster := change.roster
              watchers := s.watchers.modify index ({ · with stage := change.stage }) } :=
          ⟨h.server, h.sinksHeld, rfl, rfl, h.trace⟩
        exact ⟨_, rfl, hmoved.record _ rfl⟩
  | tracker index =>
    simp only [System.step] at hstep ⊢
    rw [← h.roster]
    split at hstep
    next => cases hstep
    next t ht =>
      split at hstep
      next => cases hstep
      next stage did hdid =>
        obtain rfl := Option.some.inj hstep
        obtain ⟨did', hdid', hengine⟩ := Tracker.step_of_alike (h.view hsetup t.token) hdid
        obtain ⟨lines, hlines⟩ := failureLog_eq_logged s did
        obtain ⟨lines', hlines'⟩ := failureLog_eq_logged s' did'
        rw [hdid']
        have hmoved : Agrees { s with roster := s.roster.setStage index stage }
            { s' with roster := s.roster.setStage index stage } :=
          ⟨h.server, h.sinksHeld, rfl, h.watchers, h.trace⟩
        refine ⟨_, rfl, hmoved.record _ ?_⟩
        rw [hlines, hlines', List.filterMap_append, List.filterMap_append, hengine,
          filterMap_engine?_logged, filterMap_engine?_logged]

/-- A run of one system is a run of the other, and they agree at its end. -/
theorem play (h : s.Agrees s') (hsetup : setup.Alike setup') {moves : List Move}
    (hplay : s.play setup moves = some next) :
    ∃ next', s'.play setup' moves = some next' ∧ next.Agrees next' := by
  induction moves generalizing s s' with
  | nil =>
    obtain rfl : s = next := Option.some.inj hplay
    exact ⟨s', rfl, h⟩
  | cons move moves ih =>
    simp only [System.play] at hplay ⊢
    split at hplay
    next mid hmid =>
      have hmove : ∃ mid', s'.move setup' move = some mid' ∧ mid.Agrees mid' := by
        cases move with
        | input input =>
          obtain rfl : s.apply input = mid := Option.some.inj hmid
          exact ⟨_, rfl, h.apply input⟩
        | step task => exact h.step hsetup hmid
      obtain ⟨mid', hmid', hagrees⟩ := hmove
      rw [hmid']
      exact ih hagrees hplay
    next => cases hplay

/-! ## What is read off the engine's part of a trace -/

/-- A projection that does not depend on the answers of the sinks. -/
lemma filterMap_trace (h : s.Agrees s') {α : Type} (f : Entry → Option α)
    (hf : ∀ entry, (entry.what.engine?.map (Entry.mk entry.task)).bind f = f entry) :
    s.trace.filterMap f = s'.trace.filterMap f := by
  have hengine (trace : Trace) : trace.engine.filterMap f = trace.filterMap f := by
    unfold Trace.engine
    rw [List.filterMap_filterMap]
    exact List.filterMap_congr fun entry _ => hf entry
  rw [← hengine, h.trace, hengine]

lemma calls (h : s.Agrees s') : s.trace.calls = s'.trace.calls := by
  refine h.filterMap_trace _ fun entry => ?_
  obtain ⟨task, what⟩ := entry
  cases what with
  | measured m => cases m <;> rfl
  | _ => rfl

/-- The same reports were handed to the same sinks, in the same order. -/
lemma deliveries (h : s.Agrees s') :
    s.trace.deliveries.map (·.unanswered) = s'.trace.deliveries.map (·.unanswered) := by
  unfold Trace.deliveries
  rw [List.map_filterMap, List.map_filterMap]
  refine h.filterMap_trace _ fun entry => ?_
  obtain ⟨task, what⟩ := entry
  cases what with
  | measured m => cases m <;> rfl
  | _ => rfl

lemma reportsAt (h : s.Agrees s') (place : Nat) :
    Delivery.reportsAt place s.trace.deliveries = Delivery.reportsAt place s'.trace.deliveries := by
  have hunanswered (ds : List Delivery) :
      Delivery.reportsAt place (ds.map (·.unanswered)) = Delivery.reportsAt place ds := by
    unfold Delivery.reportsAt
    rw [List.filter_map, List.map_map]
    rfl
  rw [← hunanswered, h.deliveries, hunanswered]

lemma result? (h : s.Agrees s') : s.result? = s'.result? := by
  have houtside (task : TaskId) : s.isStartedFromOutside task = s'.isStartedFromOutside task := by
    unfold isStartedFromOutside
    rw [h.watchers]
  unfold System.result?
  simp only [houtside]
  congr 1
  refine h.filterMap_trace _ fun entry => ?_
  obtain ⟨task, what⟩ := entry
  cases what with
  | measured m => cases m <;> rfl
  | _ => rfl

/-- The ledgers differ in the refusals only. -/
lemma ledger (h : s.Agrees s') : s.trace.ledger.Agrees s'.trace.ledger := by
  have hmeasurements : s.trace.measurements.filter (!·.isSinkFailure) =
      s'.trace.measurements.filter (!·.isSinkFailure) := by
    unfold Trace.measurements
    rw [List.filter_filterMap, List.filter_filterMap]
    refine h.filterMap_trace _ fun entry => ?_
    obtain ⟨task, what⟩ := entry
    cases what with
    | measured m => cases m <;> rfl
    | _ => rfl
  have hfilter := Ledger.agrees_filter s'.trace.measurements
  rw [← hmeasurements] at hfilter
  exact (Ledger.agrees_filter s.trace.measurements).trans hfilter.symm

end Agrees

/-- Which sinks refuse which reports, and with which error, is invisible to the engine. A run in one
setup is a run in every other one with the same names of sinks: the same input and the same steps of
the same tasks, from the empty system. The two runs make the same calls, hand the same reports to
every sink, and have the same tokens, registry and trackers, with what each of them tracks, and the
same watchers and result. Their ledgers differ in the refusals only, of which each counts under
every name as many as there were. -/
theorem sink_failures_invisible (hsetup : setup.Alike setup') {moves : List Move}
    (h : ({} : System).play setup moves = some s) :
    ∃ s', ({} : System).play setup' moves = some s' ∧
      s.trace.calls = s'.trace.calls ∧
      (∀ place, Delivery.reportsAt place s.trace.deliveries =
        Delivery.reportsAt place s'.trace.deliveries) ∧
      s.roster = s'.roster ∧ s.watchers = s'.watchers ∧ s.result? = s'.result? ∧
      s.trace.ledger.Agrees s'.trace.ledger ∧
      ∀ sink, s.trace.ledger.count (Ledger.sinkFailures sink) =
          s.trace.deliveries.countP (·.isRefusalBy sink) ∧
        s'.trace.ledger.count (Ledger.sinkFailures sink) =
          s'.trace.deliveries.countP (·.isRefusalBy sink) := by
  have hempty : Agrees {} {} := ⟨rfl, rfl, rfl, rfl, rfl⟩
  obtain ⟨s', h', hagrees⟩ := hempty.play hsetup h
  have hreach : Reachable setup s := ⟨moves, h⟩
  have hreach' : Reachable setup' s' := ⟨moves, h'⟩
  exact ⟨s', h', hagrees.calls, hagrees.reportsAt, hagrees.roster, hagrees.watchers,
    hagrees.result?, hagrees.ledger,
    fun sink => ⟨hreach.count_sinkFailures sink, hreach'.count_sinkFailures sink⟩⟩

end System

namespace Sample

/-- Sinks of the same names as in `setup`, of which the second one refuses instead of the first. -/
def swapped : Setup where
  space := "databases"
  sinks := [{ name := "down", respond := fun _ _ => none },
    { name := "void", respond := fun _ _ => some (.unexpectedStatus 500 "boom") }]

/-- A tracker has handed the failure of a backup to both sinks. -/
def toldBoth : List Move :=
  halfway ++ steps 1

/-- What these moves lead to with the sinks that answer the other way. -/
def toldSwapped : System :=
  (({} : System).play swapped toldBoth).getD {}

end Sample

/-- Whether the first or the second sink refuses, the tracker ends in the same place, and one
refusal is counted for that sink. -/
theorem System.sink_failures_invisible_swapped :
    Sample.setup.Alike Sample.swapped ∧
      ({} : System).play Sample.setup Sample.toldBoth =
        some (Sample.systemAfter Sample.toldBoth) ∧
      ({} : System).play Sample.swapped Sample.toldBoth = some Sample.toldSwapped ∧
      (Sample.systemAfter Sample.toldBoth).roster = Sample.toldSwapped.roster ∧
      (∀ place < 2, Delivery.reportsAt place Sample.toldSwapped.trace.deliveries =
        [.failure "backup failed: disk full"]) ∧
      (Sample.systemAfter Sample.toldBoth).trace.ledger.count (Ledger.sinkFailures "down") = 1 ∧
      Sample.toldSwapped.trace.ledger.count (Ledger.sinkFailures "down") = 0 ∧
      Sample.toldSwapped.trace.ledger.count (Ledger.sinkFailures "void") = 1 := by
  have hsetup : Sample.setup.Alike Sample.swapped := ⟨rfl, rfl, rfl⟩
  have hplay : ({} : System).play Sample.setup Sample.toldBoth =
      some (Sample.systemAfter Sample.toldBoth) := rfl
  have hswapped : ({} : System).play Sample.swapped Sample.toldBoth = some Sample.toldSwapped := rfl
  obtain ⟨s', hplay', -, hreports, hroster, -, -, -, hcounts⟩ :=
    System.sink_failures_invisible hsetup hplay
  obtain rfl : Sample.toldSwapped = s' := Option.some.inj (hswapped.symm.trans hplay')
  have hfirst : Delivery.reportsAt 0 (Sample.systemAfter Sample.toldBoth).trace.deliveries =
      [.failure "backup failed: disk full"] := rfl
  have hsecond : Delivery.reportsAt 1 (Sample.systemAfter Sample.toldBoth).trace.deliveries =
      [.failure "backup failed: disk full"] := rfl
  refine ⟨hsetup, hplay, hswapped, hroster, fun place hplace => ?_, (hcounts "down").1,
    (hcounts "down").2, (hcounts "void").2⟩
  rw [← hreports place]
  match place, hplace with
  | 0, _ => exact hfirst
  | 1, _ => exact hsecond

end BackupMonitor
