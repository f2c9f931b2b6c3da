import BackupMonitor.Proofs.Cancellation
import BackupMonitor.Proofs.Observations
import BackupMonitor.Proofs.TrackerHistory
import BackupMonitor.Proofs.WatcherHistory

/-!
# What a task and the API server say to each other

Trackers and watchers talk to the API server in the same way: list, watch from the cursor of that
list, take what comes in until the watch ends, and so on. `CallPhase` is how far a task of either
sort has got with that, and `Dialogue kind phase said` says that `said` is what a task for resources
of a kind can have said and heard when it has come to a phase. `Reachable.dialogue` finds such a
dialogue in what a task did, in every run.

What a step means to the task that takes it is put together in `System.Turn`: whether it may call,
why it breaks off, what it is refused. Every other move leaves the task where it is
(`System.StaysAt`).
-/

namespace BackupMonitor

/-! ## Calls and answers -/

/-- The kind of resource that is asked for. -/
def Query.kind : Query → ResourceKind
  | list kind => kind
  | watch kind _ => kind

/-- The way to ask. -/
def Query.verb : Query → Verb
  | list _ => .list
  | watch _ _ => .watch

/-- The error of a call that failed with a message. -/
def Query.error (query : Query) (message : String) : TaskError :=
  .call query.verb query.kind.plural message

/-- A call that fails has the message of the gate that it came to. -/
lemma View.error_of_answer {α : Type} {view : View} {success : α} {e : TaskError} (query : Query)
    (h : view.answer query.verb query.kind success = some (.error e)) :
    ∃ message, ((view.server.shelf query.kind).gate query.verb).fault = some message ∧
      e = query.error message := by
  simp only [answer] at h
  split at h
  next => cases h
  next =>
    split at h
    next message hfault => exact ⟨message, hfault, (Except.error.inj (Option.some.inj h)).symm⟩
    next => cases h

/-- Whether this is said by the task to the API server or the other way round, or ends the task. -/
def Occurrence.isExchange : Occurrence → Bool
  | called _ => true
  | listed _ _ => true
  | opened _ => true
  | refused _ => true
  | took _ => true
  | sawEnd _ => true
  | finished _ => true
  | startedTracker _ => false
  | logged _ => false
  | measured _ => false
  | delivered _ => false

/-- What was said and heard. -/
def Occurrence.exchange (did : List Occurrence) : List Occurrence :=
  did.filter isExchange

namespace Occurrence

@[simp] lemma exchange_nil : exchange [] = [] := rfl

@[simp] lemma exchange_append (did more : List Occurrence) :
    exchange (did ++ more) = exchange did ++ exchange more := List.filter_append ..

lemma mem_exchange {what : Occurrence} {did : List Occurrence} (h : what.isExchange = true) :
    what ∈ exchange did ↔ what ∈ did := by
  unfold exchange
  rw [List.mem_filter]
  exact and_iff_left h

lemma exchange_cons (what : Occurrence) (did : List Occurrence) :
    exchange (what :: did) = (if what.isExchange then [what] else []) ++ exchange did := by
  unfold exchange
  rw [List.filter_cons]
  split <;> rfl

@[simp] lemma exchange_logged (lines : List Log.Line) : exchange (lines.map logged) = [] := by
  unfold exchange
  rw [List.filter_map, List.map_eq_nil_iff, List.filter_eq_nil_iff]
  exact fun _ _ => Bool.false_ne_true

@[simp] lemma exchange_measured (measurements : List Measurement) :
    exchange (measurements.map measured) = [] := by
  unfold exchange
  rw [List.filter_map, List.map_eq_nil_iff, List.filter_eq_nil_iff]
  exact fun _ _ => Bool.false_ne_true

/-- The upkeep of the roster is nobody else's business. -/
lemma exchange_of_isUpkeep {did : List Occurrence} (h : ∀ what ∈ did, what.isUpkeep = true) :
    exchange did = [] := by
  refine List.filter_eq_nil_iff.mpr fun what hwhat => ?_
  have hupkeep := h what hwhat
  cases what <;> first | exact Bool.false_ne_true | cases hupkeep

end Occurrence

open Occurrence

/-- The server notices what is said to it, and nothing else. -/
lemma System.serverAfter_exchange (server : Server) (did : List Occurrence) :
    serverAfter server (exchange did) = serverAfter server did := by
  unfold serverAfter
  induction did generalizing server with
  | nil => rfl
  | cons what did ih =>
    rw [exchange_cons, List.foldl_cons, List.foldl_append]
    cases what <;> exact ih _

/-! ## Dialogues -/

/-- How far a task has got with the API server. -/
inductive CallPhase where
  /-- It has no watch and asks for nothing. -/
  | idle
  /-- It waits for the answer to a call. -/
  | asking (query : Query)
  /-- It has a cursor to watch from. -/
  | listed (cursor : String)
  /-- It has a watch. -/
  | following
  /-- It is not going to call any more, but has not finished yet. -/
  | ending (error : Option TaskError)
  /-- It has finished. -/
  | finished (error : Option TaskError)

/-- Whether the task may still call. -/
def CallPhase.isOpen : CallPhase → Bool
  | ending _ => false
  | finished _ => false
  | _ => true

/-- Whether the task broke off without an error. -/
def CallPhase.isBrokenOff : CallPhase → Bool
  | ending none => true
  | finished none => true
  | _ => false

/-- What a task comes across in its routine: an event, be it malformed, the answer of a sink, and
the end of its watch. -/
def Occurrence.isRoutine : Occurrence → Bool
  | took _ => true
  | measured .malformed => true
  | delivered _ => true
  | sawEnd _ => true
  | _ => false

/-- What a task for the resources of a kind in a namespace said and heard until it came to a
phase. -/
inductive Dialogue (space : String) (kind : ResourceKind) : CallPhase → List Occurrence → Prop where
  /-- Nothing was said yet. -/
  | begin : Dialogue space kind .idle []
  /-- It asks for a list. -/
  | callList {said : List Occurrence} (h : Dialogue space kind .idle said) :
      Dialogue space kind (.asking (.list kind)) (said ++ [.called ⟨space, .list kind⟩])
  /-- It gets the list. -/
  | listed {said : List Occurrence} (listing : Listing)
      (h : Dialogue space kind (.asking (.list kind)) said) :
      Dialogue space kind (.listed listing.cursor) (said ++ [.listed kind listing])
  /-- It asks for a watch from the cursor of that list on. -/
  | callWatch {said : List Occurrence} {cursor : String}
      (h : Dialogue space kind (.listed cursor) said) :
      Dialogue space kind (.asking (.watch kind cursor))
        (said ++ [.called ⟨space, .watch kind cursor⟩])
  /-- It gets the watch. -/
  | opened {said : List Occurrence} {cursor : String}
      (h : Dialogue space kind (.asking (.watch kind cursor)) said) :
      Dialogue space kind .following (said ++ [.opened kind])
  /-- It takes an event. -/
  | took {said : List Occurrence} (event : Event) (h : Dialogue space kind .following said) :
      Dialogue space kind .following (said ++ [.took event])
  /-- It sees the end of its watch. -/
  | sawEnd {said : List Occurrence} (h : Dialogue space kind .following said) :
      Dialogue space kind .idle (said ++ [.sawEnd kind])
  /-- Its call fails. -/
  | refused {said : List Occurrence} {query : Query} (message : String)
      (h : Dialogue space kind (.asking query) said) :
      Dialogue space kind (.ending (some (query.error message)))
        (said ++ [.refused (query.error message)])
  /-- It breaks off. -/
  | breakOff {said : List Occurrence} {phase : CallPhase} (hopen : phase.isOpen = true)
      (h : Dialogue space kind phase said) : Dialogue space kind (.ending none) said
  /-- It finishes. -/
  | finish {said : List Occurrence} {error : Option TaskError}
      (h : Dialogue space kind (.ending error) said) :
      Dialogue space kind (.finished error) (said ++ [.finished error])

namespace Dialogue

variable {space : String} {kind : ResourceKind} {said : List Occurrence}

/-- A task that waits for an answer has just called. -/
lemma exists_of_asking {query : Query} (h : Dialogue space kind (.asking query) said) :
    query.kind = kind ∧ ∃ before, said = before ++ [.called ⟨space, query⟩] := by
  cases h with
  | callList h => exact ⟨rfl, _, rfl⟩
  | callWatch h => exact ⟨rfl, _, rfl⟩

/-- All calls are for that kind in that namespace. -/
lemma of_called {phase : CallPhase} (h : Dialogue space kind phase said) {call : Call}
    (hcall : .called call ∈ said) : call.space = space ∧ call.query.kind = kind := by
  -- what is said last may be a call; any other one was made before
  induction h with
  | begin => cases hcall
  | breakOff hopen h ih => exact ih hcall
  | callList h ih =>
    rcases List.mem_append.mp hcall with hcall | hcall
    · exact ih hcall
    · obtain rfl := Occurrence.called.inj (List.mem_singleton.mp hcall)
      exact ⟨rfl, rfl⟩
  | callWatch h ih =>
    rcases List.mem_append.mp hcall with hcall | hcall
    · exact ih hcall
    · obtain rfl := Occurrence.called.inj (List.mem_singleton.mp hcall)
      exact ⟨rfl, rfl⟩
  | _ => exact ‹_ → _› (by simpa using hcall)

/-- A task that finished with an error had that error for an answer to its last call. -/
lemma exists_of_finished {e : TaskError} (h : Dialogue space kind (.finished (some e)) said) :
    ∃ before query message,
      said = before ++ [.called ⟨space, query⟩, .refused e, .finished (some e)] ∧
      query.kind = kind ∧ e = query.error message := by
  cases h with
  | finish h =>
    cases h with
    | refused message h =>
      obtain ⟨hkind, before, rfl⟩ := h.exists_of_asking
      exact ⟨before, _, message, by simp, hkind, rfl⟩

end Dialogue

/-! ## Trackers -/

/-- How far a tracker has got with the API server. -/
def TrackerStage.phase : TrackerStage → CallPhase
  | .spawned => .idle
  | .ready => .idle
  | .listing => .asking (.list .backup)
  | .listed cursor => .listed cursor
  | .opening cursor => .asking (.watch .backup cursor)
  | .following _ _ => .following
  | .delivering _ _ _ _ => .following
  | .finished error => .finished error

namespace Tracker

variable {setup : Setup} {view : View} {schedule : String} {stage stage' : TrackerStage}
  {did said : List Occurrence} {t : Tracker}

lemma phase_updateFeed (t : Tracker) (f : Feed → Feed) :
    (t.updateFeed f).stage.phase = t.stage.phase :=
  stage_updateFeed (P := fun stage => stage.phase = t.stage.phase) f
    (fun _ _ h => h) (fun _ _ _ _ h => h) rfl

lemma isOpen_phase (h : stage.isCancellable = true) : stage.phase.isOpen = true := by
  cases stage with
  | spawned => cases h
  | delivering => cases h
  | finished => cases h
  | _ => rfl

/-- Of what taking an event leads to, the event alone was heard. -/
lemma exchange_take (feed : Feed) (tracked : Tracked) (event : Event) :
    exchange (take setup schedule feed tracked event).2 = [.took event] := by
  simp only [take, exchange_append, exchange_cons, exchange_logged, exchange_measured]
  rfl

lemma phase_take (feed : Feed) (tracked : Tracked) (event : Event) :
    (take setup schedule feed tracked event).1.phase = .following := by
  simp only [take]
  split
  · split <;> rfl
  · rfl

/-- Handing out a report is nothing between the tracker and the API server. -/
lemma exchange_deliver (feed : Feed) (tracked : Tracked) (report : Report) (place : Nat) :
    exchange (deliver view feed tracked report place).2 = [] := by
  simp only [deliver]
  split
  · rfl
  · simp only [exchange_append, exchange_cons, exchange_logged, exchange_measured]
    rfl

lemma phase_deliver (feed : Feed) (tracked : Tracked) (report : Report) (place : Nat) :
    (deliver view feed tracked report place).1.phase = .following := by
  simp only [deliver]
  split
  · rfl
  · split <;> rfl

/-- A step of a tracker goes on with the dialogue. -/
lemma Step.dialogue (h : Step view schedule stage stage' did)
    (hsaid : Dialogue view.setup.space .backup stage.phase said) :
    Dialogue view.setup.space .backup stage'.phase (said ++ exchange did) := by
  cases h with
  | begin => exact (List.append_nil said).symm ▸ hsaid
  | cancel hcancel hstage => exact .finish (.breakOff (isOpen_phase hstage) hsaid)
  | callList => exact hsaid.callList
  | listFails hcancel hanswer =>
    obtain ⟨message, -, rfl⟩ := View.error_of_answer (.list .backup) hanswer
    rw [exchange_cons, ← List.append_assoc]
    exact (hsaid.refused message).finish
  | listed => exact hsaid.listed _
  | callWatch => exact hsaid.callWatch
  | @watchFails cursor e hcancel hanswer =>
    obtain ⟨message, -, rfl⟩ := View.error_of_answer (.watch .backup cursor) hanswer
    rw [exchange_cons, ← List.append_assoc]
    exact (hsaid.refused message).finish
  | opened => exact hsaid.opened
  | @take feed tracked event queue =>
    rw [exchange_take, phase_take]
    exact hsaid.took event
  | sawEnd => exact hsaid.sawEnd
  | deliver =>
    rw [exchange_deliver, phase_deliver, List.append_nil]
    exact hsaid

/-- A tracker that takes a step has not finished. -/
lemma Step.isOpen (h : Step view schedule stage stage' did) : stage.phase.isOpen = true := by
  cases h with
  | cancel hcancel hstage => exact isOpen_phase hstage
  | _ => rfl

/-- A tracker that calls is not cancelled. -/
lemma Step.isCancelled_eq_false (h : Step view schedule stage stage' did) {call : Call}
    (hcall : .called call ∈ did) : view.cancelled = false := by
  cases h with
  | begin => cases List.mem_singleton.mp hcall
  | cancel => simp [finish] at hcall
  | deliver =>
    rw [← mem_exchange rfl, exchange_deliver] at hcall
    cases hcall
  | _ => assumption

/-- A tracker that breaks off is cancelled. -/
lemma Step.isCancelled_of_isBrokenOff (h : Step view schedule stage stage' did)
    (hphase : stage'.phase.isBrokenOff = true) : view.cancelled = true := by
  cases h with
  | cancel hcancel => exact hcancel
  | take =>
    rw [phase_take] at hphase
    cases hphase
  | deliver =>
    rw [phase_deliver] at hphase
    cases hphase
  | _ => cases hphase

/-- A call of a tracker is refused by the gate that it came to. -/
lemma Step.of_refused (h : Step view schedule stage stage' did) {e : TaskError}
    (hmem : .refused e ∈ did) : ∃ query message, stage.phase = .asking query ∧
      ((view.server.shelf query.kind).gate query.verb).fault = some message ∧
      e = query.error message := by
  cases h with
  | begin => cases List.mem_singleton.mp hmem
  | cancel => simp [finish] at hmem
  | callList => cases List.mem_singleton.mp hmem
  | @listFails e' hcancel hanswer =>
    obtain ⟨message, hfault, rfl⟩ := View.error_of_answer (.list .backup) hanswer
    obtain rfl : e = Query.error (.list .backup) message := by simpa [finish] using hmem
    exact ⟨_, message, rfl, hfault, rfl⟩
  | listed => cases List.mem_singleton.mp hmem
  | callWatch => cases List.mem_singleton.mp hmem
  | @watchFails cursor e' hcancel hanswer =>
    obtain ⟨message, hfault, rfl⟩ := View.error_of_answer (.watch .backup cursor) hanswer
    obtain rfl : e = Query.error (.watch .backup cursor) message := by simpa [finish] using hmem
    exact ⟨_, message, rfl, hfault, rfl⟩
  | opened => cases List.mem_singleton.mp hmem
  | take =>
    rw [← mem_exchange rfl, exchange_take] at hmem
    cases List.mem_singleton.mp hmem
  | sawEnd => simp at hmem
  | deliver =>
    rw [← mem_exchange rfl, exchange_deliver] at hmem
    cases hmem

/-- What a tracker comes across in its routine does not end it. -/
lemma Step.isOpen_of_isRoutine (h : Step view schedule stage stage' did) {what : Occurrence}
    (hmem : what ∈ did) (hroutine : what.isRoutine = true) : stage'.phase.isOpen = true := by
  cases h with
  | take =>
    rw [phase_take]
    rfl
  | deliver =>
    rw [phase_deliver]
    rfl
  | cancel =>
    simp only [finish, List.mem_cons, List.not_mem_nil, or_false] at hmem
    rcases hmem with rfl | rfl <;> cases hroutine
  | listFails =>
    simp only [finish, List.mem_cons, List.not_mem_nil, or_false] at hmem
    rcases hmem with rfl | rfl | rfl <;> cases hroutine
  | watchFails =>
    simp only [finish, List.mem_cons, List.not_mem_nil, or_false] at hmem
    rcases hmem with rfl | rfl | rfl <;> cases hroutine
  | _ => rfl

lemma History.dialogue {past : List Occurrence} (h : History setup t past) :
    Dialogue setup.space .backup t.stage.phase (exchange past) := by
  induction h with
  | spawned hstage =>
    rw [hstage]
    exact .begin
  | fed f h ih =>
    rw [phase_updateFeed]
    exact ih
  | stepped hview lines h hstep ih =>
    subst hview
    rw [exchange_append, exchange_append, exchange_logged, List.append_nil]
    exact hstep.dialogue ih

end Tracker

/-! ## Watchers -/

/-- How far a watcher has got with the API server. -/
def WatcherStage.phase : WatcherStage → CallPhase
  | .spawned => .idle
  | .ready => .idle
  | .listing => .asking (.list .scheduledBackup)
  | .listed cursor => .listed cursor
  | .opening cursor => .asking (.watch .scheduledBackup cursor)
  | .following _ => .following
  | .draining .relist _ => .idle
  | .draining (.finish error) _ => .ending error
  | .finished error => .finished error

namespace Watcher

variable {setup : Setup} {view : View} {r : Roster} {cluster : String} {stage : WatcherStage}
  {change : WatcherChange} {said : List Occurrence} {w : Watcher}

lemma phase_updateFeed (w : Watcher) (f : Feed → Feed) :
    (w.updateFeed f).stage.phase = w.stage.phase :=
  stage_updateFeed (P := fun stage => stage.phase = w.stage.phase) f (fun _ h => h) rfl

lemma isOpen_phase (h : stage.isCancellable = true) : stage.phase.isOpen = true := by
  cases stage with
  | spawned => cases h
  | draining => cases h
  | finished => cases h
  | _ => rfl

/-- Stopping the trackers is nothing between the watcher and the API server. -/
lemma exchange_drain (r : Roster) (next : AfterDrain) (did : List Occurrence) :
    exchange (drain r next did).did = exchange did := by
  show exchange (did ++ r.stopAll.2) = exchange did
  rw [exchange_append, exchange_of_isUpkeep r.keeps_stopAll.upkeep, List.append_nil]

/-- A step of a watcher goes on with the dialogue. -/
lemma Step.dialogue (h : Step view r cluster stage change)
    (hsaid : Dialogue view.setup.space .scheduledBackup stage.phase said) :
    Dialogue view.setup.space .scheduledBackup change.stage.phase
      (said ++ exchange change.did) := by
  cases h with
  | begin => exact (List.append_nil said).symm ▸ hsaid
  | relist => exact (List.append_nil said).symm ▸ hsaid
  | finish => exact hsaid.finish
  | cancel hcancel hstage =>
    rw [exchange_drain, exchange_nil, List.append_nil]
    exact .breakOff (isOpen_phase hstage) hsaid
  | callList => exact hsaid.callList
  | listFails hcancel hanswer =>
    obtain ⟨message, -, rfl⟩ := View.error_of_answer (.list .scheduledBackup) hanswer
    rw [exchange_drain]
    exact hsaid.refused message
  | listed =>
    rw [exchange_cons, exchange_of_isUpkeep (r.keeps_enlistAll cluster _).upkeep]
    exact hsaid.listed _
  | callWatch => exact hsaid.callWatch
  | @watchFails cursor e hcancel hanswer =>
    obtain ⟨message, -, rfl⟩ := View.error_of_answer (.watch .scheduledBackup cursor) hanswer
    rw [exchange_drain]
    exact hsaid.refused message
  | opened => exact hsaid.opened
  | @take feed event queue =>
    rw [exchange_cons, exchange_of_isUpkeep (r.keeps_consider cluster _).upkeep]
    exact hsaid.took event
  | sawEnd =>
    rw [exchange_drain]
    exact hsaid.sawEnd

/-- A watcher that is not going to call any more does not come back to that. -/
lemma Step.isOpen_eq_false (h : Step view r cluster stage change)
    (hclosed : stage.phase.isOpen = false) : change.stage.phase.isOpen = false := by
  cases h with
  | cancel hcancel hstage =>
    rw [isOpen_phase hstage] at hclosed
    cases hclosed
  | finish => rfl
  | _ => cases hclosed

/-- A watcher that calls is not cancelled, and has not stopped calling. -/
lemma Step.of_called (h : Step view r cluster stage change) {call : Call}
    (hcall : .called call ∈ change.did) :
    view.cancelled = false ∧ stage.phase.isOpen = true := by
  cases h with
  | begin => cases List.mem_singleton.mp hcall
  | relist => cases hcall
  | finish => cases List.mem_singleton.mp hcall
  | cancel =>
    rw [← mem_exchange rfl, exchange_drain] at hcall
    cases hcall
  | _ => exact ⟨by assumption, rfl⟩

/-- A watcher that breaks off is cancelled, or did so before. -/
lemma Step.isCancelled_of_isBrokenOff (h : Step view r cluster stage change)
    (hphase : change.stage.phase.isBrokenOff = true) :
    stage.phase.isBrokenOff = true ∨ view.cancelled = true := by
  cases h with
  | cancel hcancel => exact .inr hcancel
  | @finish error count hempty =>
    refine .inl ?_
    cases error with
    | none => rfl
    | some e => cases hphase
  | _ => cases hphase

/-- A call of a watcher is refused by the gate that it came to. -/
lemma Step.of_refused (h : Step view r cluster stage change) {e : TaskError}
    (hmem : .refused e ∈ change.did) : ∃ query message, stage.phase = .asking query ∧
      ((view.server.shelf query.kind).gate query.verb).fault = some message ∧
      e = query.error message := by
  have hnot {did : List Occurrence} {Q : Prop} (hupkeep : ∀ what ∈ did, what.isUpkeep = true)
      (hmem : .refused e ∈ did) : Q := by
    cases hupkeep _ hmem
  cases h with
  | begin => cases List.mem_singleton.mp hmem
  | relist => cases hmem
  | finish => cases List.mem_singleton.mp hmem
  | cancel => cases (mem_did_drain rfl).mp hmem
  | callList => cases List.mem_singleton.mp hmem
  | @listFails e' hcancel hanswer =>
    obtain ⟨message, hfault, rfl⟩ := View.error_of_answer (.list .scheduledBackup) hanswer
    cases List.mem_singleton.mp ((mem_did_drain rfl).mp hmem)
    exact ⟨_, message, rfl, hfault, rfl⟩
  | listed =>
    rcases List.mem_cons.mp hmem with heq | hmem
    · cases heq
    · exact hnot (r.keeps_enlistAll cluster _).upkeep hmem
  | callWatch => cases List.mem_singleton.mp hmem
  | @watchFails cursor e' hcancel hanswer =>
    obtain ⟨message, hfault, rfl⟩ :=
      View.error_of_answer (.watch .scheduledBackup cursor) hanswer
    cases List.mem_singleton.mp ((mem_did_drain rfl).mp hmem)
    exact ⟨_, message, rfl, hfault, rfl⟩
  | opened => cases List.mem_singleton.mp hmem
  | take =>
    rcases List.mem_cons.mp hmem with heq | hmem
    · cases heq
    · exact hnot (r.keeps_consider cluster _).upkeep hmem
  | sawEnd => simpa using (mem_did_drain rfl).mp hmem

/-- What a watcher comes across in its routine does not end it. -/
lemma Step.isOpen_of_isRoutine (h : Step view r cluster stage change) {what : Occurrence}
    (hmem : what ∈ change.did) (hroutine : what.isRoutine = true) :
    change.stage.phase.isOpen = true := by
  have hupkeep : what.isUpkeep = false := by
    cases what <;> first | rfl | cases hroutine
  cases h with
  | finish =>
    obtain rfl := List.mem_singleton.mp hmem
    cases hroutine
  | cancel =>
    rw [mem_did_drain hupkeep] at hmem
    cases hmem
  | listFails =>
    rw [mem_did_drain hupkeep, List.mem_singleton] at hmem
    subst hmem
    cases hroutine
  | watchFails =>
    rw [mem_did_drain hupkeep, List.mem_singleton] at hmem
    subst hmem
    cases hroutine
  | _ => rfl

lemma History.dialogue {past : List Occurrence} (h : History setup w past) :
    Dialogue setup.space .scheduledBackup w.stage.phase (exchange past) := by
  induction h with
  | spawned hstage =>
    rw [hstage]
    exact .begin
  | fed f h ih =>
    rw [phase_updateFeed]
    exact ih
  | stepped hview h hstep ih =>
    subst hview
    rw [exchange_append]
    exact hstep.dialogue ih

end Watcher

/-! ## Tasks -/

namespace System

variable {setup : Setup} {s next : System} {task : TaskId} {phase : CallPhase}

/-- How far a task has got with the API server, if there is the task. -/
def phase? (s : System) : TaskId → Option CallPhase
  | .watcher index => s.watchers[index]?.map (·.stage.phase)
  | .tracker index => s.roster.trackers[index]?.map (·.stage.phase)

/-- Whether the token of a task is cancelled. -/
def isCancelled (s : System) : TaskId → Bool
  | .watcher _ => s.roster.tokens.isCancelled Tokens.root
  | .tracker index => s.roster.trackers[index]?.any (s.roster.tokens.isCancelled ·.token)

lemma isCancelled_tracker {index : Nat} {t : Tracker} (ht : s.roster.trackers[index]? = some t) :
    s.isCancelled (.tracker index) = s.roster.tokens.isCancelled t.token := by
  simp only [isCancelled, ht, Option.any_some]

/-- No move takes back the cancellation of a task. -/
lemma isCancelled_task_of_move {move : Move} (h : s.move setup move = some next)
    (hcancel : s.isCancelled task = true) : next.isCancelled task = true := by
  cases task with
  | watcher index => exact isCancelled_of_move h hcancel
  | tracker index =>
    obtain ⟨t, ht, htoken⟩ := (Option.any_eq_true _ _).mp hcancel
    obtain ⟨u, did, hu, -, hmoves⟩ := moves_of_move h ht
    have hsame : u.token = t.token := congrArg Prod.snd hmoves.origin_eq
    rw [isCancelled_tracker hu, hsame]
    exact isCancelled_of_move h htoken

/-! ### What a step means to the task that takes it -/

/-- What a step means to the task that takes it, with its phases before and after. -/
structure Turn (s next : System) (task : TaskId) (phase phase' : CallPhase)
    (did : List Occurrence) : Prop where
  /-- The phase before. -/
  before : s.phase? task = some phase
  /-- The phase afterwards. -/
  after : next.phase? task = some phase'
  /-- What the task did. -/
  trace : next.trace.ofTask task = s.trace.ofTask task ++ did
  /-- It does not come back to calling. -/
  closed : phase.isOpen = false → phase'.isOpen = false
  /-- It calls only if it is not cancelled and has not stopped calling. -/
  live : ∀ call, .called call ∈ did → s.isCancelled task = false ∧ phase.isOpen = true
  /-- Only the gate that its call came to refuses it anything. -/
  refused : ∀ e, .refused e ∈ did → ∃ query message, phase = .asking query ∧
    ((s.server.shelf query.kind).gate query.verb).fault = some message ∧
    e = query.error message
  /-- It breaks off only if it is cancelled. -/
  brokenOff : phase'.isBrokenOff = true → phase.isBrokenOff = true ∨ s.isCancelled task = true
  /-- What it comes across in its routine does not end it. -/
  routine : ∀ what ∈ did, what.isRoutine = true → phase'.isOpen = true

theorem exists_turn (h : s.step setup task = some next) :
    ∃ phase phase' did, Turn s next task phase phase' did := by
  cases task with
  | watcher index =>
    obtain ⟨w, change, hw, hchange, rfl⟩ := step_watcher_eq_some h
    have hstep := Watcher.step_cases hchange
    refine ⟨w.stage.phase, change.stage.phase, change.did, ?_, ?_, ?_, hstep.isOpen_eq_false,
      fun call => hstep.of_called, fun e => hstep.of_refused,
      hstep.isCancelled_of_isBrokenOff,
      fun what => hstep.isOpen_of_isRoutine⟩
    · simp only [phase?, hw, Option.map_some]
    · simp [phase?, hw]
    · rw [ofTask_append_map, if_pos rfl]
  | tracker index =>
    obtain ⟨t, stage, did, ht, hdid, rfl⟩ := step_tracker_eq_some h
    obtain ⟨lines, hlines⟩ := failureLog_eq_logged s did
    have hstep := Tracker.step_cases hdid
    -- the log lines that follow are none of these things
    have hmem {what : Occurrence} (hwhat : what ∈ did ++ lines.map .logged)
        (hlogged : what.isUpkeep = false) : what ∈ did := by
      refine (List.mem_append.mp hwhat).resolve_right fun hline => ?_
      rw [isUpkeep_of_mem_logged hline] at hlogged
      cases hlogged
    have htoken := isCancelled_tracker ht
    refine ⟨t.stage.phase, stage.phase, did ++ lines.map .logged, ?_, ?_, ?_,
      fun hclosed => absurd (hstep.isOpen.symm.trans hclosed) (by simp), fun call hcall => ?_,
      fun e he => hstep.of_refused (hmem he rfl), fun hphase => .inr ?_,
      fun what hwhat hroutine => ?_⟩
    · simp only [phase?, ht, Option.map_some]
    · simp [phase?, ht]
    · rw [ofTask_append_map, if_pos rfl, hlines]
    · rw [htoken]
      exact ⟨hstep.isCancelled_eq_false (hmem hcall rfl), hstep.isOpen⟩
    · rw [htoken]
      exact hstep.isCancelled_of_isBrokenOff hphase
    · refine hstep.isOpen_of_isRoutine (hmem hwhat ?_) hroutine
      cases what <;> first | rfl | cases hroutine

/-! ### What anything else means to a task -/

/-- A task that takes no step does nothing. -/
lemma ofTask_of_step_ne (h : s.step setup task = some next) {other : TaskId}
    (hne : task ≠ other) : next.trace.ofTask other = s.trace.ofTask other := by
  cases task with
  | watcher index =>
    obtain ⟨w, change, -, -, rfl⟩ := step_watcher_eq_some h
    rw [ofTask_append_map, if_neg hne, List.append_nil]
  | tracker index =>
    obtain ⟨t, stage, did, -, -, rfl⟩ := step_tracker_eq_some h
    rw [ofTask_append_map, if_neg hne, List.append_nil]

/-- A task is at the same phase as before, or it has just been started. -/
def StaysAt (s next : System) (task : TaskId) : Prop :=
  next.phase? task = s.phase? task ∨ (s.phase? task = none ∧ next.phase? task = some .idle)

lemma StaysAt.of_some (h : s.StaysAt next task) (hphase : s.phase? task = some phase) :
    next.phase? task = some phase := by
  rcases h with hsame | ⟨hnone, -⟩
  · exact hsame.trans hphase
  · rw [hnone] at hphase
    cases hphase

lemma StaysAt.eq_or_idle (h : s.StaysAt next task) (hphase : next.phase? task = some phase) :
    s.phase? task = some phase ∨ phase = .idle := by
  rcases h with hsame | ⟨-, hidle⟩
  · exact .inl (hsame.symm.trans hphase)
  · exact .inr (Option.some.inj (hphase.symm.trans hidle))

/-- Trackers that were started later are at the beginning. -/
lemma staysAt_of_extends (h : s.roster.Extends next.roster) (index : Nat) :
    s.StaysAt next (.tracker index) := by
  obtain ⟨fresh, htrackers, hfresh⟩ := h
  unfold StaysAt
  simp only [phase?, htrackers]
  by_cases hindex : index < s.roster.trackers.length
  · exact .inl (by rw [List.getElem?_append_left hindex])
  · have hnone : s.roster.trackers[index]? = none := List.getElem?_eq_none (by omega)
    rw [List.getElem?_append_right (by omega), hnone]
    cases ht : fresh[index - s.roster.trackers.length]? with
    | none => exact .inl rfl
    | some t =>
      refine .inr ⟨rfl, ?_⟩
      rw [Option.map_some, hfresh t (List.mem_of_getElem? ht)]
      rfl

/-- A task that takes no step stays where it is. -/
lemma staysAt_of_step_ne (h : s.step setup task = some next) {other : TaskId}
    (hne : task ≠ other) : s.StaysAt next other := by
  cases task with
  | watcher index =>
    obtain ⟨w, change, -, hchange, rfl⟩ := step_watcher_eq_some h
    cases other with
    | watcher other =>
      have hother : index ≠ other := fun heq => hne (heq ▸ rfl)
      refine .inl ?_
      simp only [phase?, List.getElem?_modify_ne _ _ hother]
    | tracker other => exact staysAt_of_extends (Watcher.step_cases hchange).extends_roster other
  | tracker index =>
    obtain ⟨t, stage, did, -, -, rfl⟩ := step_tracker_eq_some h
    cases other with
    | watcher other => exact .inl rfl
    | tracker other =>
      have hother : index ≠ other := fun heq => hne (heq ▸ rfl)
      refine .inl ?_
      simp only [phase?, Roster.trackers_setStage, List.getElem?_modify_ne _ _ hother]

lemma phase?_withFeeds (s : System) (F : TaskId → Feed → Feed) (task : TaskId) :
    (s.withFeeds F).phase? task = s.phase? task := by
  cases task with
  | tracker index =>
    rw [phase?, phase?, getElem?_trackers_withFeeds, Option.map_map]
    congr 1
    funext t
    exact t.phase_updateFeed _
  | watcher index =>
    rw [phase?, phase?, getElem?_watchers_withFeeds, Option.map_map]
    congr 1
    funext w
    exact w.phase_updateFeed _

/-- Input leaves a task where it is, unless it starts the task. -/
lemma staysAt_apply (s : System) (input : Input) (task : TaskId) :
    s.StaysAt (s.apply input) task := by
  have hfeeds (F : TaskId → Feed → Feed) : s.StaysAt (s.withFeeds F) task :=
    .inl (s.phase?_withFeeds F task)
  cases input with
  | start role =>
    cases role with
    | tracker schedule =>
      cases task with
      | watcher index => exact .inl rfl
      | tracker index => exact staysAt_of_extends ⟨[_], rfl, by simp⟩ index
    | watcher cluster =>
      cases task with
      | tracker index => exact .inl rfl
      | watcher index =>
        unfold StaysAt
        simp only [phase?, apply, start]
        by_cases hindex : index < s.watchers.length
        · exact .inl (by rw [List.getElem?_append_left hindex])
        · have hnone : s.watchers[index]? = none := List.getElem?_eq_none (by omega)
          rw [List.getElem?_append_right (by omega), hnone]
          cases hw : [({ cluster } : Watcher)][index - s.watchers.length]? with
          | none => exact .inl rfl
          | some w =>
            rw [List.mem_singleton.mp (List.mem_of_getElem? hw)]
            exact .inr ⟨rfl, rfl⟩
  | event => exact hfeeds _
  | close => exact hfeeds _
  | arrive => exact hfeeds _
  | items => exact .inl rfl
  | fault => exact .inl rfl
  | hold => exact .inl rfl
  | holdSinks => exact .inl rfl
  | cancel => exact .inl rfl

/-! ### In every run -/

/-- What a task said and heard is a dialogue that ends where the task is. -/
theorem Reachable.dialogue (h : Reachable setup s) (hphase : s.phase? task = some phase) :
    Dialogue setup.space task.kind phase (exchange (s.trace.ofTask task)) := by
  cases task with
  | watcher index =>
    obtain ⟨w, hw, rfl⟩ := Option.map_eq_some_iff.mp hphase
    exact (h.watcherHistory hw).dialogue
  | tracker index =>
    obtain ⟨t, ht, rfl⟩ := Option.map_eq_some_iff.mp hphase
    exact (h.history ht).dialogue

/-- A task that broke off without an error is cancelled. -/
theorem Reachable.isCancelled_of_isBrokenOff (h : Reachable setup s)
    (hphase : s.phase? task = some phase) (hbroken : phase.isBrokenOff = true) :
    s.isCancelled task = true := by
  -- a phase that a task keeps is one that it had before the cancellation could be taken back
  have hkept {s next : System} (move : Move) {task : TaskId} {phase : CallPhase}
      (hmove : s.move setup move = some next) (hbroken : phase.isBrokenOff = true)
      (ih : ∀ task phase, s.phase? task = some phase → phase.isBrokenOff = true →
        s.isCancelled task = true)
      (hphase : s.phase? task = some phase ∨ phase = .idle) : next.isCancelled task = true := by
    rcases hphase with hphase | rfl
    · exact isCancelled_task_of_move hmove (ih task phase hphase hbroken)
    · cases hbroken
  refine h.induct (P := fun s => ∀ task phase, s.phase? task = some phase →
    phase.isBrokenOff = true → s.isCancelled task = true) ?_ ?_ ?_ task phase hphase hbroken
  · intro task phase hphase
    cases task <;> cases hphase
  · intro s input ih task phase hphase hbroken
    exact hkept (.input input) rfl hbroken ih ((s.staysAt_apply input task).eq_or_idle hphase)
  · intro s task next ih hstep other phase hphase hbroken
    have hmove : s.move setup (.step task) = some next := hstep
    by_cases hother : task = other
    · subst hother
      obtain ⟨before, after, did, hturn⟩ := exists_turn hstep
      obtain rfl : after = phase := Option.some.inj (hturn.after.symm.trans hphase)
      refine isCancelled_task_of_move hmove ?_
      exact (hturn.brokenOff hbroken).elim (ih task before hturn.before) id
    · exact hkept _ hmove hbroken ih ((staysAt_of_step_ne hstep hother).eq_or_idle hphase)

end System

end BackupMonitor
