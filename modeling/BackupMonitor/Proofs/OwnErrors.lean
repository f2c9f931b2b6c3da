import BackupMonitor.Proofs.Dialogue
import BackupMonitor.Proofs.Generations
import BackupMonitor.Proofs.LiveTracker

/-!
# Errors that end a task

A task ends with an error only if that is the answer to one of its own calls, and without one only
if it is cancelled. Nothing that it comes across in its routine ends it.

A tracker that ends with an error leaves everybody else as they are (`System.SparesOthers`). Its
schedule stays registered, so the watcher starts no other tracker for it until the schedule has been
taken out of the registry: by an event that says so, or with all the others when the watch of the
schedules ends. `Watcher.Holds` is what the watcher keeps until then.
-/

namespace BackupMonitor

open Occurrence

/-! ## A schedule that keeps its place -/

/-- Whether this takes a schedule out of the registry of a watcher of the cluster: the schedule is
deleted, or is not for the cluster any more, or the watch of the schedules ends. -/
def Occurrence.deregisters (cluster name : String) : Occurrence → Bool
  | took event =>
    event.object.name == some name &&
      match event.change with
      | .deleted => true
      | .modified => !Roster.targets cluster event.object
      | .added => false
  | sawEnd .scheduledBackup => true
  | _ => false

namespace Roster

variable {r : Roster} {name : String} {token : Token}

/-- The operation leaves a registered schedule registered and starts no other tracker for it. -/
structure HoldsPlace (name : String) (token : Token) (change : Change) : Prop where
  /-- The schedule is registered with that token. -/
  registered : change.1.registry.get? name = some token
  /-- No tracker is started for it. -/
  not_started : .startedTracker name ∉ change.2

namespace HoldsPlace

lemma refl (h : r.registry.get? name = some token) : HoldsPlace name token (r, []) :=
  ⟨h, List.not_mem_nil⟩

lemma logged {change : Change} (h : HoldsPlace name token change) (lines : List Log.Line) :
    HoldsPlace name token (change.1, lines.map .logged ++ change.2) := by
  refine ⟨h.registered, fun hmem => ?_⟩
  rcases List.mem_append.mp hmem with hline | hmem
  · obtain ⟨line, -, hline⟩ := List.mem_map.mp hline
    cases hline
  · exact h.not_started hmem

lemma start (h : r.registry.get? name = some token) (schedule : String) :
    HoldsPlace name token (r.start schedule) := by
  by_cases hsame : schedule = name
  · -- the name is taken, so nothing is done
    subst hsame
    have hnothing : r.start schedule = (r, []) := by
      simp [Roster.start, Registry.startIfAbsent, h]
    rw [hnothing]
    exact refl h
  · cases hget : r.registry.get? schedule with
    | some other =>
      have hnothing : r.start schedule = (r, []) := by
        simp [Roster.start, Registry.startIfAbsent, hget]
      rw [hnothing]
      exact refl h
    | none =>
      refine ⟨?_, ?_⟩
      · rw [registry_start hget, Table.get?_insert, if_neg fun heq => hsame heq.symm, h]
      · have hne : ¬ name = schedule := fun heq => hsame heq.symm
        simp [Roster.start, Registry.startIfAbsent, hget, hne]

lemma startIfTargeting (h : r.registry.get? name = some token) (cluster schedule : String)
    (object : Object) : HoldsPlace name token (r.startIfTargeting cluster schedule object) := by
  simp only [Roster.startIfTargeting]
  split
  · exact (start h schedule).logged _
  · exact (refl h).logged _

/-- To stop the tracker of one schedule is nothing to the others. -/
lemma stop (h : r.registry.get? name = some token) {schedule : String} (hne : schedule ≠ name)
    (reason : String) : HoldsPlace name token (r.stop schedule reason) := by
  refine ⟨?_, fun hmem => ?_⟩
  · rw [stop_eq]
    split
    · exact h
    · rw [Table.get?_erase, if_neg fun heq => hne heq.symm, h]
  · obtain ⟨line, -, hline⟩ := List.mem_map.mp hmem
    cases hline

/-- An event that does not take the schedule out leaves it in its place. -/
lemma consider (h : r.registry.get? name = some token) {cluster : String} {event : Event}
    (hkeeps : (took event).deregisters cluster name = false) :
    HoldsPlace name token (r.consider cluster event) := by
  obtain ⟨change, object⟩ := event
  unfold Roster.consider
  cases hname : object.name with
  | none => exact (refl h).logged [_]
  | some other =>
    simp only [Occurrence.deregisters, hname] at hkeeps
    cases change with
    | added => exact startIfTargeting h cluster other object
    | modified =>
      cases htargets : targets cluster object with
      | true => exact startIfTargeting h cluster other object
      | false =>
        have hne : other ≠ name := by simpa [htargets] using hkeeps
        exact (stop h hne _).logged _
    | deleted =>
      have hne : other ≠ name := by simpa using hkeeps
      exact stop h hne _

end HoldsPlace

end Roster

/-! ## What the watcher keeps -/

/-- Every start of a tracker for the schedule comes after something that took the schedule out of
the registry. -/
def Occurrence.StartsAfterOut (cluster name : String) (since : List Occurrence) : Prop :=
  ∀ before after, since = before ++ .startedTracker name :: after →
    ∃ what ∈ before, what.deregisters cluster name = true

namespace Occurrence.StartsAfterOut

variable {cluster name : String} {since did : List Occurrence}

/-- More is done, which starts no tracker for the schedule unless the schedule was taken out. -/
lemma append (h : StartsAfterOut cluster name since)
    (hdid : (∀ what ∈ since, what.deregisters cluster name = false) →
      StartsAfterOut cluster name did) : StartsAfterOut cluster name (since ++ did) := by
  intro before after heq
  by_cases hout : ∃ what ∈ since, what.deregisters cluster name = true
  · rcases List.append_eq_append_iff.mp heq with ⟨rest, hbefore, -⟩ | ⟨rest, hsince, hrest⟩
    · obtain ⟨what, hwhat, hderegisters⟩ := hout
      exact ⟨what, hbefore ▸ List.mem_append_left _ hwhat, hderegisters⟩
    · cases rest with
      | nil =>
        obtain ⟨what, hwhat, hderegisters⟩ := hout
        rw [List.append_nil] at hsince
        exact ⟨what, hsince ▸ hwhat, hderegisters⟩
      | cons first rest =>
        obtain ⟨rfl, -⟩ := List.cons.inj hrest
        exact h before rest hsince
  · have hnone : ∀ what ∈ since, what.deregisters cluster name = false := fun what hwhat =>
      Bool.eq_false_iff.mpr fun hderegisters => hout ⟨what, hwhat, hderegisters⟩
    have hnever {Q : Prop} {front rest : List Occurrence}
        (hsince : since = front ++ .startedTracker name :: rest) : Q := by
      obtain ⟨what, hwhat, hderegisters⟩ := h front rest hsince
      exact absurd ⟨what, hsince ▸ List.mem_append_left _ hwhat, hderegisters⟩ hout
    rcases List.append_eq_append_iff.mp heq with ⟨rest, rfl, hrest⟩ | ⟨rest, hsince, hrest⟩
    · obtain ⟨what, hwhat, hderegisters⟩ := hdid hnone rest after hrest
      exact ⟨what, List.mem_append_right _ hwhat, hderegisters⟩
    · cases rest with
      | nil =>
        obtain ⟨what, hwhat, -⟩ := hdid hnone [] after hrest.symm
        cases hwhat
      | cons first rest =>
        obtain ⟨rfl, -⟩ := List.cons.inj hrest
        exact hnever hsince

lemma of_not_mem (h : .startedTracker name ∉ did) : StartsAfterOut cluster name did := by
  rintro before after rfl
  exact absurd (List.mem_append_right _ List.mem_cons_self) h

end Occurrence.StartsAfterOut

namespace Watcher

variable {view : View} {r : Roster} {cluster name : String} {token : Token} {count : Nat}
  {stage : WatcherStage} {change : WatcherChange} {since : List Occurrence}

/-- What a watcher that did `since` keeps about a schedule that was registered with that token and
for which that many trackers had been started. -/
structure Holds (cluster name : String) (token : Token) (count : Nat) (stage : WatcherStage)
    (r : Roster) (since : List Occurrence) : Prop where
  /-- It starts no tracker for the schedule before it has taken it out of the registry. -/
  awaited : StartsAfterOut cluster name since
  /-- Until then no other tracker was started for the schedule. -/
  spawned : (∀ what ∈ since, what.deregisters cluster name = false) → r.spawned name = count
  /-- Until then the schedule is registered, unless the watcher has stopped all trackers because it
  is not going to call any more. -/
  held : (∀ what ∈ since, what.deregisters cluster name = false) →
    (stage.isInCycle = true ∧ r.registry.get? name = some token) ∨ stage.phase.isOpen = false

/-- A step of a watcher that has the schedule registered leaves it so, unless the step takes it out
or stops all trackers because the watcher is not going to call any more. -/
lemma Step.holdsPlace (h : Step view r cluster stage change) (hcycle : stage.isInCycle = true)
    (hget : r.registry.get? name = some token) :
    StartsAfterOut cluster name change.did ∧
      ((∀ what ∈ change.did, what.deregisters cluster name = false) →
        (change.stage.isInCycle = true ∧ change.roster.registry.get? name = some token) ∨
          change.stage.phase.isOpen = false) := by
  -- to stop all trackers starts none
  have hdrain (next : AfterDrain) {did : List Occurrence} (hdid : .startedTracker name ∉ did) :
      StartsAfterOut cluster name (drain r next did).did := by
    refine .of_not_mem fun hmem => ?_
    rcases List.mem_append.mp hmem with hmem | hmem
    · exact hdid hmem
    · obtain ⟨line, -, hline⟩ := List.mem_map.mp hmem
      cases hline
  cases h with
  | callWatch => exact ⟨.of_not_mem (by simp), fun _ => .inl ⟨rfl, hget⟩⟩
  | opened => exact ⟨.of_not_mem (by simp), fun _ => .inl ⟨rfl, hget⟩⟩
  | @take feed event queue =>
    cases hevent : (took event).deregisters cluster name with
    | false =>
      have hplace : Roster.HoldsPlace name token (r.consider cluster event) := .consider hget hevent
      refine ⟨.of_not_mem ?_, fun _ => .inl ⟨rfl, hplace.registered⟩⟩
      simpa using hplace.not_started
    | true =>
      refine ⟨fun before after heq => ?_, fun hall => ?_⟩
      · -- the event comes before anything that it leads to
        obtain ⟨front, rfl⟩ : ∃ front, before = took event :: front := by
          cases before with
          | nil => cases heq
          | cons first front => exact ⟨front, by rw [(List.cons.inj heq).1]⟩
        exact ⟨_, List.mem_cons_self, hevent⟩
      · rw [hall _ List.mem_cons_self] at hevent
        cases hevent
  | cancel => exact ⟨hdrain _ List.not_mem_nil, fun _ => .inr rfl⟩
  | watchFails => exact ⟨hdrain _ (by simp), fun _ => .inr rfl⟩
  | sawEnd =>
    refine ⟨hdrain _ (by simp), fun hall => ?_⟩
    cases hall _ (List.mem_append_left _ List.mem_cons_self)
  | begin => cases hcycle
  | relist => cases hcycle
  | finish => cases hcycle
  | callList => cases hcycle
  | listFails => cases hcycle
  | listed => cases hcycle

/-- A watcher that is not going to call any more starts nothing. -/
lemma Step.of_isOpen_eq_false (h : Step view r cluster stage change)
    (hclosed : stage.phase.isOpen = false) (name : String) :
    .startedTracker name ∉ change.did ∧ change.roster.trackers = r.trackers := by
  cases h with
  | cancel hcancel hstage =>
    rw [isOpen_phase hstage] at hclosed
    cases hclosed
  | finish => exact ⟨by simp [afterDrain], rfl⟩
  | _ => cases hclosed

/-- A step of the watcher keeps what it keeps about a schedule. -/
lemma Step.holds (h : Step view r cluster stage change)
    (hholds : Holds cluster name token count stage r since) :
    Holds cluster name token count change.stage change.roster (since ++ change.did) := by
  have hfirst (hall : ∀ what ∈ since ++ change.did, what.deregisters cluster name = false) :
      ∀ what ∈ since, what.deregisters cluster name = false :=
    fun what hwhat => hall what (List.mem_append_left _ hwhat)
  refine ⟨hholds.awaited.append fun hsince => ?_, fun hall => ?_, fun hall => ?_⟩
  · rcases hholds.held hsince with ⟨hcycle, hget⟩ | hclosed
    · exact (h.holdsPlace hcycle hget).1
    · exact .of_not_mem (h.of_isOpen_eq_false hclosed name).1
  · rw [← hholds.spawned (hfirst hall)]
    rcases hholds.held (hfirst hall) with ⟨-, hget⟩ | hclosed
    · -- the name is not registered anew
      have hcounts : r.Counts name change.roster := h.counts name
      unfold Roster.Counts Roster.registersAnew at hcounts
      simpa [hget] using hcounts
    · unfold Roster.spawned
      rw [(h.of_isOpen_eq_false hclosed name).2]
  · rcases hholds.held (hfirst hall) with ⟨hcycle, hget⟩ | hclosed
    · exact (h.holdsPlace hcycle hget).2 fun what hwhat => hall what (List.mem_append_right _ hwhat)
    · exact .inr (h.isOpen_eq_false hclosed)

/-- What a watcher keeps about a schedule is kept, in what it does after `earlier`. -/
lemma isKept_holds (cluster name : String) (token : Token) (count : Nat)
    (earlier : List Occurrence) :
    IsKept cluster fun stage r past =>
      ∃ since, past = earlier ++ since ∧ Holds cluster name token count stage r since where
  watcher hstep h := by
    obtain ⟨since, rfl, hholds⟩ := h
    exact ⟨since ++ _, List.append_assoc .., hstep.holds hholds⟩
  tracker {r stage past index t} ht hrunning h next := by
    obtain ⟨since, hpast, hholds⟩ := h
    refine ⟨since, hpast, hholds.awaited, fun hall => ?_, fun hall => ?_⟩
    · rw [Roster.spawned_eq_countP_origins, Roster.origins_setStage,
        ← Roster.spawned_eq_countP_origins]
      exact hholds.spawned hall
    · rw [Roster.registry_setStage]
      exact hholds.held hall
  backups {r stage past} h F := by
    obtain ⟨since, hpast, hholds⟩ := h
    refine ⟨since, hpast, hholds.awaited, fun hall => ?_, hholds.held⟩
    rw [Roster.spawned_eq_countP_origins, Roster.origins_withFeeds,
      ← Roster.spawned_eq_countP_origins]
    exact hholds.spawned hall
  schedules h f := by
    obtain ⟨since, hpast, hholds⟩ := h
    exact ⟨since, hpast, hholds.awaited, hholds.spawned, hholds.held⟩
  cancel h := by
    obtain ⟨since, hpast, hholds⟩ := h
    exact ⟨since, hpast, hholds.awaited, hholds.spawned, hholds.held⟩

end Watcher

/-! ## A tracker that fails -/

namespace Tracker

variable {view view' : View}

/-- What a tracker does next depends on the past only through what was handed to the sinks. -/
lemma step_eq_of_earlier (hsetup : view.setup = view'.setup) (hserver : view.server = view'.server)
    (hheld : view.sinksHeld = view'.sinksHeld) (hcancel : view.cancelled = view'.cancelled)
    (hearlier : view.earlier = view'.earlier) (t : Tracker) : t.step view = t.step view' := by
  obtain ⟨setup, server, held, cancelled, trace⟩ := view
  obtain ⟨setup', server', held', cancelled', trace'⟩ := view'
  obtain ⟨schedule, token, stage⟩ := t
  subst hsetup hserver hheld hcancel
  cases stage with
  | delivering feed tracked report place => simp only [step, deliver, hearlier]
  | _ => rfl

/-- A tracker that ends with an error does this and nothing else. -/
lemma Step.of_finished_error {schedule : String} {stage : TrackerStage} {did : List Occurrence}
    {e : TaskError} (h : Step view schedule stage (.finished (some e)) did) :
    did = .refused e :: (finish (some e)).2 ∧ view.cancelled = false ∧
      stage.isCancellable = true := by
  generalize hstage : TrackerStage.finished (some e) = stage' at h
  cases h with
  | listFails hcancel =>
    obtain rfl := Option.some.inj (TrackerStage.finished.inj hstage)
    exact ⟨rfl, hcancel, rfl⟩
  | watchFails hcancel =>
    obtain rfl := Option.some.inj (TrackerStage.finished.inj hstage)
    exact ⟨rfl, hcancel, rfl⟩
  | @take feed tracked event queue =>
    have hphase : (Tracker.take view.setup schedule { feed with queue } tracked event).1.phase =
        CallPhase.following := phase_take _ tracked event
    rw [← hstage] at hphase
    cases hphase
  | @deliver feed tracked report place =>
    have hphase : (Tracker.deliver view feed tracked report place).1.phase =
        CallPhase.following := phase_deliver feed tracked report place
    rw [← hstage] at hphase
    cases hphase
  | cancel => cases hstage
  | _ => cases hstage

end Tracker

/-- The result that an entry brings if its task was started from outside; trackers were if they are
alone. -/
def Entry.result? (alone : Bool) (entry : Entry) : Option (Option TaskError) :=
  match entry.what, entry.task with
  | .finished error, .watcher _ => some error
  | .finished error, .tracker _ => if alone then some error else none
  | _, _ => none

namespace System

variable {setup : Setup} {cluster : String} {s failed later : System} {index : Nat}

lemma result?_eq (s : System) :
    s.result? = (s.trace.filterMap (Entry.result? s.watchers.isEmpty)).getLast? := by
  unfold result?
  congr 2
  funext entry
  obtain ⟨task, what⟩ := entry
  cases what <;> cases task <;> rfl

/-- The end of a tracker leaves everybody else as they are, in going from `s` to `failed`. -/
structure SparesOthers (setup : Setup) (index : Nat) (s failed : System) : Prop where
  /-- The server has what it had. -/
  server : failed.server = s.server
  /-- The watchers are where they were. -/
  watchers : failed.watchers = s.watchers
  /-- The result of a watcher is what it was. -/
  result? : s.watchers ≠ [] → failed.result? = s.result?
  /-- What was registered is registered. -/
  registry : failed.roster.registry = s.roster.registry
  /-- No token is made or cancelled. -/
  tokens : failed.roster.tokens = s.roster.tokens
  /-- The other trackers are the same, and where they were. -/
  trackers : ∀ other, other ≠ index →
    failed.roster.trackers[other]? = s.roster.trackers[other]?
  /-- No other task does anything. -/
  trace : ∀ task, task ≠ .tracker index → failed.trace.ofTask task = s.trace.ofTask task
  /-- Whatever the other trackers would have done next they will do. -/
  next : ∀ t : Tracker, t.step (failed.view setup t.token) = t.step (s.view setup t.token)

/-- A step with which a tracker ends with an error. -/
lemma exists_of_failed {e : TaskError} (hstep : s.step setup (.tracker index) = some failed)
    (hphase : failed.phase? (.tracker index) = some (.finished (some e))) :
    ∃ t did, s.roster.trackers[index]? = some t ∧ s.roster.tokens.isCancelled t.token = false ∧
      (∃ lines, did = refused e :: (Tracker.finish (some e)).2 ++ List.map logged lines) ∧
      failed = { s with
        roster := s.roster.setStage index (.finished (some e))
        server := serverAfter s.server did
        trace := s.trace ++ did.map (⟨.tracker index, ·⟩) } := by
  obtain ⟨t, stage, did, ht, hdid, rfl⟩ := step_tracker_eq_some hstep
  obtain ⟨lines, hlines⟩ := failureLog_eq_logged s did
  obtain rfl : stage = .finished (some e) := by
    have hphase : stage.phase = .finished (some e) := by simpa [phase?, ht] using hphase
    cases stage with
    | finished error => rw [CallPhase.finished.inj hphase]
    | _ => cases hphase
  obtain ⟨rfl, hlive, -⟩ := (Tracker.step_cases hdid).of_finished_error
  exact ⟨t, _, ht, hlive, ⟨lines, by rw [hlines]⟩, rfl⟩

/-- A tracker that ends with an error spares the others. -/
lemma sparesOthers_of_failed {e : TaskError} (hstep : s.step setup (.tracker index) = some failed)
    (hphase : failed.phase? (.tracker index) = some (.finished (some e))) :
    s.SparesOthers setup index failed := by
  obtain ⟨t, fail, -, -, ⟨lines, hfail⟩, rfl⟩ := exists_of_failed hstep hphase
  -- nothing of this is a list that succeeded or a report
  have hserver : serverAfter s.server fail = s.server := by
    rw [← serverAfter_exchange, hfail, exchange_append, exchange_logged]
    rfl
  have hearlier : (s.trace ++ fail.map (Entry.mk (.tracker index))).deliveries =
      s.trace.deliveries := by
    rw [hfail]
    simp [Trace.deliveries, List.filterMap_append, List.filterMap_map, Tracker.finish]
  have htokens : (s.roster.setStage index (.finished (some e))).tokens = s.roster.tokens := by
    obtain ⟨emptied, hroster⟩ := Roster.exists_noteEmptied_eq s.roster
      { s.roster with
        trackers := s.roster.trackers.modify index ({ · with stage := .finished (some e) }) }
    unfold Roster.setStage
    rw [hroster]
  constructor
  · exact hserver
  · rfl
  · intro hwatchers
    have hempty : s.watchers.isEmpty = false := by simpa using hwatchers
    have hnone : (fail.map (Entry.mk (.tracker index))).filterMap (Entry.result? false) = [] := by
      rw [List.filterMap_map, List.filterMap_eq_nil_iff]
      intro what _
      cases what <;> rfl
    rw [result?_eq, result?_eq]
    show ((s.trace ++ fail.map _).filterMap (Entry.result? s.watchers.isEmpty)).getLast? = _
    rw [hempty, List.filterMap_append, hnone, List.append_nil]
  · exact Roster.registry_setStage s.roster index _
  · exact htokens
  · intro other hother
    simp only [Roster.trackers_setStage]
    exact List.getElem?_modify_ne _ _ fun heq => hother heq.symm
  · intro task htask
    rw [ofTask_append_map, if_neg fun heq => htask heq.symm, List.append_nil]
  · intro u
    apply Tracker.step_eq_of_earlier
    · rfl
    · exact hserver
    · rfl
    · exact congrArg (·.isCancelled u.token) htokens
    · exact hearlier

/-- A tracker that fails while a watcher runs is registered. -/
lemma WatcherRun.exists_registered (h : WatcherRun setup cluster s) {e : TaskError}
    (hstep : s.step setup (.tracker index) = some failed)
    (hphase : failed.phase? (.tracker index) = some (.finished (some e))) :
    ∃ t, s.roster.trackers[index]? = some t ∧
      s.roster.registry.get? t.schedule = some t.token := by
  obtain ⟨t, did, ht, hlive, -, rfl⟩ := exists_of_failed hstep hphase
  exact ⟨t, ht, h.isAccounted.get?_of_live ht hlive⟩

/-- As long as a watcher has a schedule registered it starts no other tracker for it. -/
theorem WatcherRun.holds (h : WatcherRun setup cluster s) {name : String} {token : Token}
    (hget : s.roster.registry.get? name = some token) (hlater : LeadsTo setup s later) :
    ∃ since, later.trace.ofTask (.watcher 0) = s.trace.ofTask (.watcher 0) ++ since ∧
      StartsAfterOut cluster name since ∧
      ((∀ what ∈ since, what.deregisters cluster name = false) →
        later.roster.spawned name = s.roster.spawned name ∧
        (later.roster.registry.get? name = some token ∨
          ∃ phase, later.phase? (.watcher 0) = some phase ∧ phase.isOpen = false)) := by
  obtain ⟨w, hw, hcluster⟩ := h.exists_watcher
  have hcycle : w.stage.isInCycle = true := by
    by_contra hout
    have hempty := (h.reachable.isInLine.one w hw).empty (by simpa using hout)
    rw [hempty] at hget
    cases hget
  obtain ⟨v, hv, -, since, hsince, hholds⟩ := (Watcher.isKept_holds cluster name token
    (s.roster.spawned name) (s.trace.ofTask (.watcher 0))).leadsTo hlater
    ⟨w, hw, hcluster, [], (List.append_nil _).symm, .of_not_mem List.not_mem_nil, fun _ => rfl,
      fun _ => .inl ⟨hcycle, hget⟩⟩
  refine ⟨since, hsince, hholds.awaited, fun hall => ⟨hholds.spawned hall, ?_⟩⟩
  rcases hholds.held hall with ⟨-, hregistered⟩ | hclosed
  · exact .inl hregistered
  · exact .inr ⟨v.stage.phase, by simp [phase?, hv], hclosed⟩

/-- A task finishes well only if it is cancelled, and with an error only if that was the answer to
the last call that it made, which is the message of the gate that the call came to. An event, be it
malformed, the answer of a sink, and the end of a watch do not end it.

A tracker that ends with an error spares the others. If it belongs to a watcher its schedule stays
registered, and whatever comes in, the watcher starts no other tracker for that schedule before it
has taken it out of the registry: because the schedule was deleted, or was changed to be for another
cluster, or because the watch of the schedules ended. Until then the schedule is registered, unless
the watcher has stopped all trackers in order to end. -/
theorem Reachable.errors_stay_contained (h : Reachable setup s) :
    (∀ task, s.phase? task = some (.finished none) → s.isCancelled task = true) ∧
    (∀ task e, s.phase? task = some (.finished (some e)) → ∃ before query message,
      exchange (s.trace.ofTask task) =
        before ++ [.called ⟨setup.space, query⟩, .refused e, .finished (some e)] ∧
      query.kind = task.kind ∧ e = query.error message) ∧
    (∀ task next did, s.step setup task = some next →
      next.trace.ofTask task = s.trace.ofTask task ++ did →
      (∀ e, .refused e ∈ did → ∃ before query message,
        exchange (s.trace.ofTask task) = before ++ [.called ⟨setup.space, query⟩] ∧
        query.kind = task.kind ∧
        ((s.server.shelf query.kind).gate query.verb).fault = some message ∧
        e = query.error message) ∧
      ∀ what ∈ did, what.isRoutine = true →
        ∃ phase, next.phase? task = some phase ∧ phase.isOpen = true) ∧
    ∀ index failed e, s.step setup (.tracker index) = some failed →
      failed.phase? (.tracker index) = some (.finished (some e)) →
      s.SparesOthers setup index failed ∧
      ∀ cluster, WatcherRun setup cluster s → ∃ t, s.roster.trackers[index]? = some t ∧
        failed.roster.registry.get? t.schedule = some t.token ∧
        ∀ later, LeadsTo setup failed later → ∃ since,
          later.trace.ofTask (.watcher 0) = failed.trace.ofTask (.watcher 0) ++ since ∧
          StartsAfterOut cluster t.schedule since ∧
          ((∀ what ∈ since, what.deregisters cluster t.schedule = false) →
            later.roster.spawned t.schedule = failed.roster.spawned t.schedule ∧
            (later.roster.registry.get? t.schedule = some t.token ∨
              ∃ phase, later.phase? (.watcher 0) = some phase ∧ phase.isOpen = false)) := by
  refine ⟨fun task hphase => h.isCancelled_of_isBrokenOff hphase rfl,
    fun task e hphase => (h.dialogue hphase).exists_of_finished, ?_, ?_⟩
  · intro task next did hstep hdid
    obtain ⟨phase, phase', did', hturn⟩ := exists_turn hstep
    obtain rfl : did = did' := List.append_cancel_left (hdid.symm.trans hturn.trace)
    refine ⟨fun e he => ?_, fun what hwhat hroutine =>
      ⟨phase', hturn.after, hturn.routine what hwhat hroutine⟩⟩
    obtain ⟨query, message, rfl, hfault, herror⟩ := hturn.refused e he
    obtain ⟨hkind, before, hbefore⟩ := (h.dialogue hturn.before).exists_of_asking
    exact ⟨before, query, message, hbefore, hkind, hfault, herror⟩
  · intro index failed e hstep hphase
    have hspares := sparesOthers_of_failed hstep hphase
    refine ⟨hspares, fun cluster hrun => ?_⟩
    obtain ⟨t, ht, hget⟩ := hrun.exists_registered hstep hphase
    rw [← hspares.registry] at hget
    exact ⟨t, ht, hget, fun later hlater => (hrun.leadsTo (.of_step hstep)).holds hget hlater⟩

end System

namespace Sample

/-- Backups cannot be listed any more when the tracker of a schedule waits for its list. -/
def failing : List Move :=
  .input (.items .scheduledBackup [schedule (some "nightly") (.string "main")]) ::
    .input (.start (.watcher "main")) :: List.replicate 5 (.step (.watcher 0)) ++ steps 2 ++
    [.input (.fault .list .backup (some "gone"))]

/-- The schedule comes in as new and as changed, is deleted, and comes in once more. -/
def comingBack : List Move :=
  [Change.added, .modified, .deleted, .added].flatMap fun change =>
    scheduleNews change (schedule (some "nightly") (.string "main"))

/-- The system when that tracker has failed. -/
def bereft : System :=
  systemAfter (failing ++ steps 1)

/-- The system after the events that follow. -/
def cameBack : System :=
  systemAfter (failing ++ steps 1 ++ comingBack)

end Sample

/-- A tracker that cannot list fails with the error of its call. The schedule stays registered while
it comes in as new and as changed, and another tracker is started after it was deleted. -/
theorem System.errors_stay_contained_cameBack :
    Reachable Sample.setup (Sample.systemAfter Sample.failing) ∧
      WatcherRun Sample.setup "main" (Sample.systemAfter Sample.failing) ∧
      (Sample.systemAfter Sample.failing).step Sample.setup (.tracker 0) = some Sample.bereft ∧
      Sample.bereft.phase? (.tracker 0) =
        some (.finished (some (.call .list "backups" "gone"))) ∧
      Sample.bereft.roster.registry.get? "nightly" = some 1 ∧
      LeadsTo Sample.setup Sample.bereft Sample.cameBack ∧
      ∃ since, Sample.cameBack.trace.ofTask (.watcher 0) =
          Sample.bereft.trace.ofTask (.watcher 0) ++ since ∧
        StartsAfterOut "main" "nightly" since ∧
        Sample.bereft.roster.spawned "nightly" = 1 ∧
        Sample.cameBack.roster.spawned "nightly" = 2 ∧
        ∃ what ∈ since, what.deregisters "main" "nightly" = true := by
  have h : Reachable Sample.setup (Sample.systemAfter Sample.failing) := ⟨Sample.failing, rfl⟩
  have hrun : WatcherRun Sample.setup "main" (Sample.systemAfter Sample.failing) :=
    ⟨Sample.failing, rfl, rfl⟩
  have hstep : (Sample.systemAfter Sample.failing).step Sample.setup (.tracker 0) =
      some Sample.bereft := rfl
  have hlater : LeadsTo Sample.setup Sample.bereft Sample.cameBack := ⟨Sample.comingBack, rfl, rfl⟩
  obtain ⟨-, -, -, hfails⟩ := Reachable.errors_stay_contained h
  obtain ⟨-, hplace⟩ := hfails 0 Sample.bereft _ hstep rfl
  obtain ⟨t, ht, hget, hrest⟩ := hplace "main" hrun
  obtain rfl : { schedule := "nightly", token := 1, stage := .listing } = t :=
    Option.some.inj ht
  obtain ⟨since, hsince, hstarts, hkept⟩ := hrest Sample.cameBack hlater
  refine ⟨h, hrun, hstep, rfl, hget, hlater, since, hsince, hstarts, rfl, rfl, ?_⟩
  by_contra hnone
  -- then there would still be the one tracker
  obtain ⟨hsame, -⟩ := hkept fun what hwhat =>
    Bool.eq_false_iff.mpr fun hderegisters => hnone ⟨what, hwhat, hderegisters⟩
  have htwo : Sample.cameBack.roster.spawned "nightly" = 2 := rfl
  rw [htwo] at hsame
  cases hsame

end BackupMonitor
