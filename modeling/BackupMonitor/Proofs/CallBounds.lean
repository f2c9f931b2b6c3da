import BackupMonitor.Proofs.Protocol
import BackupMonitor.Proofs.Rest

/-!
# No hot loops

A task lists again only when its watch has ended, and what it opens then stays open until input ends
it. So as long as nothing comes in, a task goes through one round at most: `CallPhase.callsLeft` is
what it can still ask for, and every step uses up what it asks for (`System.callsOf_of_step`).
Together with the budget of the steps, which bounds every order of them, this is
`System.comes_to_rest`. The order in which `System.advance` runs the tasks does not stop before the
tasks are at rest, since whoever can take a step stands in its queue.
-/

namespace BackupMonitor

open Occurrence

/-! ## What a task can still ask for -/

/-- The ways to ask that a task may still use, in this order, before anything comes in; `ended` says
that the watch it has was ended. -/
def CallPhase.callsLeft (ended : Bool) : CallPhase → List Verb
  | idle => [.list, .watch]
  | asking (.list _) => [.watch]
  | asking (.watch ..) => []
  | listed _ => [.watch]
  | following => if ended then [.list, .watch] else []
  | ending _ => []
  | finished _ => []

/-- Nobody can ask for more than one list and one watch after that. -/
lemma CallPhase.callsLeft_sublist (ended : Bool) (phase : CallPhase) :
    (phase.callsLeft ended).Sublist [.list, .watch] := by
  cases phase with
  | idle => exact .refl _
  | asking query => cases query <;> simp [callsLeft]
  | following => cases ended <;> simp [callsLeft]
  | _ => simp [callsLeft]

namespace Occurrence

/-- How the server was asked. -/
def verbs (did : List Occurrence) : List Verb :=
  (did.filterMap call?).map (·.query.verb)

/-- How the server was asked is said between the task and the server. -/
lemma verbs_exchange (did : List Occurrence) : verbs (exchange did) = verbs did := by
  unfold verbs exchange
  rw [List.filterMap_filter]
  congr 1
  refine List.filterMap_congr fun what _ => ?_
  cases what <;> rfl

end Occurrence

namespace Tracker

variable {view : View} {t : Tracker} {stage : TrackerStage} {did : List Occurrence}

/-- What a tracker asks for in a step it cannot ask for again. -/
lemma Step.verbs_append_callsLeft (h : Step view t.schedule t.stage stage did) :
    (verbs did ++ stage.phase.callsLeft ((Tracker.feed? { t with stage }).any (·.closed))).Sublist
      (t.stage.phase.callsLeft (t.feed?.any (·.closed))) := by
  obtain ⟨schedule, token, now⟩ := t
  cases h with
  | take =>
    rw [← verbs_exchange, exchange_take, phase_take, feed?_take]
    exact .refl _
  | deliver =>
    rw [← verbs_exchange, exchange_deliver, phase_deliver, feed?_deliver]
    exact .refl _
  | sawEnd hcancel hqueue hclosed =>
    simp only [feed?, Option.any_some, hclosed]
    exact .refl _
  | cancel => exact List.nil_sublist _
  | listFails => exact List.nil_sublist _
  | watchFails => exact List.nil_sublist _
  | begin => exact .refl _
  | callList => exact .refl _
  | listed => exact .refl _
  | callWatch => exact .refl _
  | opened => exact .refl _

end Tracker

namespace Watcher

variable {view : View} {r : Roster} {w : Watcher} {change : WatcherChange}

/-- What a watcher asks for in a step it cannot ask for again. -/
lemma Step.verbs_append_callsLeft (h : Step view r w.cluster w.stage change) :
    (verbs change.did ++ change.stage.phase.callsLeft
        ((Watcher.feed? { w with stage := change.stage }).any (·.closed))).Sublist
      (w.stage.phase.callsLeft (w.feed?.any (·.closed))) := by
  obtain ⟨cluster, now⟩ := w
  cases h with
  | cancel =>
    rw [← verbs_exchange, exchange_drain]
    exact List.nil_sublist _
  | listFails =>
    rw [← verbs_exchange, exchange_drain]
    exact List.nil_sublist _
  | watchFails =>
    rw [← verbs_exchange, exchange_drain]
    exact List.nil_sublist _
  | listed =>
    rw [← verbs_exchange, exchange_cons, exchange_of_isUpkeep (r.keeps_enlistAll cluster _).upkeep]
    exact .refl _
  | take =>
    rw [← verbs_exchange, exchange_cons, exchange_of_isUpkeep (r.keeps_consider cluster _).upkeep]
    exact .refl _
  | sawEnd hcancel hqueue hclosed =>
    rw [← verbs_exchange, exchange_drain]
    simp only [feed?, Option.any_some, hclosed]
    exact .refl _
  | begin => exact .refl _
  | relist => exact .refl _
  | finish => exact .refl _
  | callList => exact .refl _
  | callWatch => exact .refl _
  | opened => exact .refl _

end Watcher

namespace System

variable {setup : Setup} {s t next : System} {task : TaskId}

/-- What a task can still ask for before anything comes in. One that has not been started can ask
for a list and a watch. -/
def callsLeft (s : System) (task : TaskId) : List Verb :=
  (s.phase? task).elim [.list, .watch] (·.callsLeft ((s.feed? task).any (·.closed)))

lemma callsLeft_sublist (s : System) (task : TaskId) :
    (s.callsLeft task).Sublist [.list, .watch] := by
  unfold callsLeft
  cases s.phase? task with
  | none => exact .refl _
  | some phase => exact phase.callsLeft_sublist _

/-- A task that takes no step can ask for what it could ask for. -/
lemma callsLeft_of_step_ne (h : s.step setup task = some next) {other : TaskId}
    (hne : task ≠ other) : next.callsLeft other = s.callsLeft other := by
  unfold callsLeft
  rw [feed?_of_step_ne h hne]
  rcases staysAt_of_step_ne h hne with hphase | ⟨hnone, hidle⟩
  · rw [hphase]
  · rw [hnone, hidle]
    rfl

/-- What a task asks for in a step it cannot ask for again. -/
lemma callsOf_of_step (h : s.step setup task = some next) (other : TaskId) :
    ∃ calls, next.callsOf other = s.callsOf other ++ calls ∧
      (calls.map (·.query.verb) ++ next.callsLeft other).Sublist (s.callsLeft other) := by
  unfold callsOf
  by_cases hother : task = other
  · subst hother
    cases task with
    | watcher index =>
      obtain ⟨w, change, hw, hchange, rfl⟩ := step_watcher_eq_some h
      have hleft := (Watcher.step_cases hchange).verbs_append_callsLeft
      unfold verbs at hleft
      refine ⟨change.did.filterMap call?, ?_, ?_⟩
      · rw [ofTask_append_map, if_pos rfl, List.filterMap_append]
      · simpa [callsLeft, phase?, feed?, hw] using hleft
    | tracker index =>
      obtain ⟨u, stage, did, hu, hdid, rfl⟩ := step_tracker_eq_some h
      obtain ⟨lines, hlines⟩ := failureLog_eq_logged s did
      have hleft := (Tracker.step_cases hdid).verbs_append_callsLeft
      unfold verbs at hleft
      refine ⟨did.filterMap call?, ?_, ?_⟩
      · rw [ofTask_append_map, if_pos rfl, hlines, List.filterMap_append, List.filterMap_append,
          filterMap_map_eq_nil (fun _ => rfl), List.append_nil]
      · simpa [callsLeft, phase?, feed?, hu] using hleft
  · refine ⟨[], ?_, ?_⟩
    · rw [ofTask_of_step_ne h hother, List.append_nil]
    · rw [callsLeft_of_step_ne h hother]
      exact .refl _

/-- Input makes no task call. -/
lemma callsOf_applyAll (setup : Setup) (s : System) (batch : List Input) (task : TaskId) :
    (s.applyAll setup batch).1.callsOf task = s.callsOf task := by
  unfold applyAll
  generalize s.enqueue setup [] = queue
  induction batch generalizing s queue with
  | nil => rfl
  | cons input batch ih =>
    refine (ih (s.apply input) _).trans ?_
    unfold callsOf
    rw [trace_apply]

/-- Until something comes in a task asks for what it can still ask for, and no more. -/
theorem callsOf_of_order {order : List TaskId} (h : s.play setup (order.map .step) = some t)
    (task : TaskId) : ∃ calls, t.callsOf task = s.callsOf task ++ calls ∧
      (calls.map (·.query.verb) ++ t.callsLeft task).Sublist (s.callsLeft task) := by
  induction order generalizing s with
  | nil =>
    obtain rfl := Option.some.inj h
    exact ⟨[], (List.append_nil _).symm, .refl _⟩
  | cons first order ih =>
    obtain ⟨mid, hstep, hrest⟩ := exists_of_play_step h
    obtain ⟨calls, hcalls, hleft⟩ := callsOf_of_step hstep task
    obtain ⟨more, hmore, hlast⟩ := ih hrest
    refine ⟨calls ++ more, ?_, ?_⟩
    · rw [hmore, hcalls, List.append_assoc]
    · rw [List.map_append, List.append_assoc]
      exact (hlast.append_left _).trans hleft

/-! ## The order of waking -/

/-- Everybody who can take a step stands in the queue. -/
def IsQueued (setup : Setup) (s : System) (queue : List TaskId) : Prop :=
  ∀ task, s.step setup task ≠ none → task ∈ queue

lemma isQueued_enqueue (setup : Setup) (s : System) (queue : List TaskId) :
    IsQueued setup s (s.enqueue setup queue) := by
  intro task htask
  unfold enqueue
  rw [List.mem_append, List.mem_filter]
  by_cases hmem : task ∈ queue
  · exact .inl hmem
  · exact .inr ⟨mem_enabled_iff.mpr htask, by simp [hmem]⟩

lemma isQueued_applyAll (setup : Setup) (s : System) (batch : List Input) :
    IsQueued setup (s.applyAll setup batch).1 (s.applyAll setup batch).2 := by
  unfold applyAll
  have hqueued := isQueued_enqueue setup s []
  generalize s.enqueue setup [] = queue at hqueued
  induction batch generalizing s queue with
  | nil => exact hqueued
  | cons input batch ih => exact ih (s.apply input) _ (isQueued_enqueue setup _ queue)

/-- If the queue has nobody who can take a step, then there is nobody. -/
lemma isAtRest_of_stepNext?_eq_none {queue : List TaskId} (hqueued : IsQueued setup s queue)
    (h : s.stepNext? setup queue = none) : s.isAtRest setup = true := by
  have hwaits : ∀ task ∈ queue, s.step setup task = none := by
    clear hqueued
    induction queue with
    | nil => exact fun _ htask => absurd htask List.not_mem_nil
    | cons first queue ih =>
      simp only [stepNext?] at h
      split at h
      next => cases h
      next hfirst =>
        intro task htask
        rcases List.mem_cons.mp htask with rfl | htask
        · exact hfirst
        · exact ih h task htask
  refine isAtRest_iff.mpr fun task => ?_
  by_contra hstep
  exact hstep (hwaits task (hqueued task hstep))

/-- Whoever can take a step after the first one of a queue has stands in the queue. -/
lemma isQueued_of_stepNext? {queue queue' : List TaskId}
    (h : s.stepNext? setup queue = some (next, queue')) : IsQueued setup next queue' := by
  induction queue with
  | nil => cases h
  | cons first queue ih =>
    simp only [stepNext?] at h
    split at h
    next =>
      obtain ⟨rfl, rfl⟩ := Prod.mk.inj (Option.some.inj h)
      exact isQueued_enqueue setup _ _
    next => exact ih h

/-- With more fuel than there are steps to take, the tasks of the queue run until none can take a
step. -/
theorem isAtRest_runFor {fuel : Nat} {queue : List TaskId} (hfuel : s.budget setup < fuel)
    (hqueued : IsQueued setup s queue) : (runFor setup fuel s queue).isAtRest setup = true := by
  induction fuel generalizing s queue with
  | zero => omega
  | succ fuel ih =>
    unfold runFor
    split
    next next queue' hnext =>
      obtain ⟨task, hstep⟩ := stepNext?_eq_some hnext
      have hlower := budget_lt_of_step hstep
      exact ih (by omega) (isQueued_of_stepNext? hnext)
    next hnone => exact isAtRest_of_stepNext?_eq_none hqueued hnone

/-- The order of waking leads to where none can take a step. -/
lemma settles_advance (setup : Setup) (s : System) (batch : List Input) :
    Settles setup (s.applyAll setup batch).1 (s.advance setup batch) := by
  obtain ⟨order, horder⟩ := exists_play_runFor setup ((s.applyAll setup batch).1.budget setup + 1)
    (s.applyAll setup batch).1 (s.applyAll setup batch).2
  exact ⟨order, horder, isAtRest_runFor (Nat.lt_succ_self _) (isQueued_applyAll setup s batch)⟩

/-! ## Rest -/

/-- Wherever the tasks have got to, and whatever then comes in at once, they come to rest. The order
of waking leads there, and so does every other one: it has no more steps than the budget allows, and
as long as the tasks are not at rest it goes on. On the way, whatever the order is, a task makes no
more than one list call and one watch call, in that order. -/
theorem comes_to_rest (setup : Setup) (s : System) (batch : List Input) :
    Settles setup (s.applyAll setup batch).1 (s.advance setup batch) ∧
    ∀ (order : List TaskId) (t : System),
      (s.applyAll setup batch).1.play setup (order.map .step) = some t →
      order.length ≤ (s.applyAll setup batch).1.budget setup ∧
      (∃ rest, Settles setup t rest) ∧
      ∀ task, ∃ calls, t.callsOf task = s.callsOf task ++ calls ∧
        (calls.map (·.query.verb)).Sublist [.list, .watch] := by
  refine ⟨settles_advance setup s batch, fun order t hplay => ?_⟩
  have hbudget := length_le_budget hplay
  refine ⟨by omega, exists_settles setup t, fun task => ?_⟩
  obtain ⟨calls, hcalls, hleft⟩ := callsOf_of_order hplay task
  refine ⟨calls, ?_, ?_⟩
  · rw [hcalls, callsOf_applyAll]
  · have hmade := (List.sublist_append_left _ _).trans hleft
    exact hmade.trans (callsLeft_sublist _ task)

end System

namespace Sample

/-- The watches of a watcher and of its tracker end at once. -/
def bothEnd : List Input :=
  [.close .backup, .close .scheduledBackup]

end Sample

/-- A watcher and its tracker of which the watches end at once call for one more round each, which
is as much as they can. -/
theorem System.comes_to_rest_bothEnd :
    ((Sample.systemAfter Sample.nightly).advance Sample.setup Sample.bothEnd).isAtRest
        Sample.setup = true ∧
      ((Sample.systemAfter Sample.nightly).advance Sample.setup Sample.bothEnd).callsOf
          (.watcher 0) = (Sample.systemAfter Sample.nightly).callsOf (.watcher 0) ++
        [⟨"databases", .list .scheduledBackup⟩, ⟨"databases", .watch .scheduledBackup "rv-2"⟩] ∧
      ((Sample.systemAfter Sample.nightly).advance Sample.setup Sample.bothEnd).callsOf
          (.tracker 0) = (Sample.systemAfter Sample.nightly).callsOf (.tracker 0) ++
        [⟨"databases", .list .backup⟩, ⟨"databases", .watch .backup "rv-2"⟩] ∧
      ∀ task, ∃ calls,
        ((Sample.systemAfter Sample.nightly).advance Sample.setup Sample.bothEnd).callsOf task =
          (Sample.systemAfter Sample.nightly).callsOf task ++ calls ∧
        (calls.map (·.query.verb)).Sublist [.list, .watch] := by
  obtain ⟨⟨order, hplay, hrest⟩, hall⟩ :=
    System.comes_to_rest Sample.setup (Sample.systemAfter Sample.nightly) Sample.bothEnd
  obtain ⟨-, -, hcalls⟩ := hall order _ hplay
  exact ⟨hrest, rfl, rfl, hcalls⟩

end BackupMonitor
