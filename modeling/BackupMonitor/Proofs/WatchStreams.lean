import BackupMonitor.Proofs.Dialogue
import BackupMonitor.Proofs.FeedOrder

/-!
# What comes in over the watches of a task

What a task takes of its watches is counted against what comes in over them: `System.streamed` is
read off the moves of a run alone, and the task has taken all of it whenever it is about to list
(`System.Streams`). So no round of a task ends early.
-/

namespace BackupMonitor

open Occurrence

/-- What input brings over the open watch of a task. -/
def Input.arrival? (task : TaskId) : Input → Option Arrival
  | .event kind news => if task.kind = kind then some (.event news) else none
  | .close kind => if task.kind = kind then some .ended else none
  | .arrive other arrival => if task = other then some arrival else none
  | _ => none

/-- What was taken of a watch. -/
def Occurrence.arrival? : Occurrence → Option Arrival
  | took event => some (.event event)
  | sawEnd _ => some .ended
  | _ => none

/-- What has come in over a watch and has not been taken yet. -/
def Feed.arrivals (feed : Feed) : List Arrival :=
  feed.queue.map .event ++ (if feed.closed then [.ended] else [])

/-- What comes in comes last, unless the watch has ended before. -/
lemma Feed.arrivals_add (feed : Feed) (arrival : Arrival) :
    (feed.add arrival).arrivals = feed.arrivals ++ (if feed.closed then [] else [arrival]) := by
  cases arrival <;> cases hclosed : feed.closed <;> simp [add, push, close, arrivals, hclosed]

/-- What was taken is said between the task and the API server. -/
lemma Occurrence.filterMap_arrival?_exchange (did : List Occurrence) :
    (exchange did).filterMap arrival? = did.filterMap arrival? := by
  unfold exchange
  rw [List.filterMap_filter]
  refine List.filterMap_congr fun what _ => ?_
  cases what <;> rfl

namespace Tracker

variable {view : View} {t : Tracker} {stage : TrackerStage} {did : List Occurrence}

/-- A step of a tracker takes what waits first, unless the tracker finishes. -/
lemma Step.arrivals (h : Step view t.schedule t.stage stage did) :
    t.feed?.elim [] Feed.arrivals =
        did.filterMap arrival? ++ (Tracker.feed? { t with stage }).elim [] Feed.arrivals ∨
      (did.filterMap arrival? = [] ∧ stage.phase.isOpen = false) := by
  obtain ⟨schedule, token, now⟩ := t
  cases h with
  | cancel => exact .inr ⟨rfl, rfl⟩
  | listFails => exact .inr ⟨rfl, rfl⟩
  | watchFails => exact .inr ⟨rfl, rfl⟩
  | @take feed tracked event queue hcancel hqueue =>
    refine .inl ?_
    rw [← filterMap_arrival?_exchange, exchange_take, feed?_take]
    simp [feed?, Feed.arrivals, hqueue, arrival?]
  | deliver =>
    refine .inl ?_
    rw [← filterMap_arrival?_exchange, exchange_deliver, feed?_deliver]
    rfl
  | sawEnd hcancel hqueue hclosed =>
    refine .inl ?_
    simp [feed?, Feed.arrivals, hqueue, hclosed, arrival?]
  | begin => exact .inl rfl
  | callList => exact .inl rfl
  | listed => exact .inl rfl
  | callWatch => exact .inl rfl
  | opened => exact .inl rfl

end Tracker

/-- The open watch of a watcher. -/
def Watcher.feed? (w : Watcher) : Option Feed :=
  match w.stage with
  | .following feed => some feed
  | _ => none

namespace Watcher

variable {view : View} {r : Roster} {w : Watcher} {change : WatcherChange}

lemma feed?_updateFeed (w : Watcher) (f : Feed → Feed) :
    (w.updateFeed f).feed? = w.feed?.map f := by
  obtain ⟨cluster, stage⟩ := w
  cases stage <;> rfl

/-- A step of a watcher takes what waits first, unless the watcher is not going to call any more. -/
lemma Step.arrivals (h : Step view r w.cluster w.stage change) :
    w.feed?.elim [] Feed.arrivals = change.did.filterMap arrival? ++
        (Watcher.feed? { w with stage := change.stage }).elim [] Feed.arrivals ∨
      (change.did.filterMap arrival? = [] ∧ change.stage.phase.isOpen = false) := by
  obtain ⟨cluster, now⟩ := w
  cases h with
  | begin => exact .inl rfl
  | relist => exact .inl rfl
  | finish => exact .inr ⟨rfl, rfl⟩
  | cancel => exact .inr ⟨by rw [← filterMap_arrival?_exchange, exchange_drain]; rfl, rfl⟩
  | listFails => exact .inr ⟨by rw [← filterMap_arrival?_exchange, exchange_drain]; rfl, rfl⟩
  | watchFails => exact .inr ⟨by rw [← filterMap_arrival?_exchange, exchange_drain]; rfl, rfl⟩
  | callList => exact .inl rfl
  | listed =>
    refine .inl ?_
    rw [← filterMap_arrival?_exchange, exchange_cons,
      exchange_of_isUpkeep (r.keeps_enlistAll cluster _).upkeep]
    rfl
  | callWatch => exact .inl rfl
  | opened => exact .inl rfl
  | @take feed event queue hcancel hqueue =>
    refine .inl ?_
    rw [← filterMap_arrival?_exchange, exchange_cons,
      exchange_of_isUpkeep (r.keeps_consider cluster _).upkeep]
    simp [feed?, Feed.arrivals, hqueue, arrival?, isExchange]
  | @sawEnd feed hcancel hqueue hclosed =>
    have hended : feed.arrivals = [.ended] := by simp [Feed.arrivals, hqueue, hclosed]
    refine .inl ?_
    rw [← filterMap_arrival?_exchange, exchange_drain]
    exact hended

end Watcher

namespace System

variable {setup : Setup} {s next later : System} {task : TaskId} {phase : CallPhase}

/-- The open watch of a task. -/
def feed? (s : System) : TaskId → Option Feed
  | .watcher index => s.watchers[index]?.bind (·.feed?)
  | .tracker index => s.roster.trackers[index]?.bind (·.feed?)

/-- What a move brings over the open watch of a task; a watch that has ended brings nothing. -/
def arriving (s : System) (task : TaskId) : Move → List Arrival
  | .input input =>
    if (s.feed? task).any (!·.closed) then (input.arrival? task).toList else []
  | .step _ => []

/-- What comes in over the watches of a task along a run. -/
def streamed (setup : Setup) (task : TaskId) : System → List Move → List Arrival
  | _, [] => []
  | s, move :: moves =>
    match s.move setup move with
    | some next => s.arriving task move ++ streamed setup task next moves
    | none => []

/-- What a task took of its watches. -/
def consumed (s : System) (task : TaskId) : List Arrival :=
  (s.trace.ofTask task).filterMap arrival?

/-- How a task stands to what came in over its watches: it has not taken what waits in its open
watch, and nothing else; or it is not going to call any more, and left what came last. -/
inductive Streams (s : System) (task : TaskId) (came : List Arrival) : Prop where
  /-- What it has not taken waits in its watch. -/
  | waits (h : came = s.consumed task ++ (s.feed? task).elim [] Feed.arrivals)
  /-- It is not going to call any more. -/
  | closed {phase : CallPhase} (hphase : s.phase? task = some phase) (hover : phase.isOpen = false)
      (h : s.consumed task <+: came)

/-- Trackers that were started later have no watch. -/
lemma feed?_of_extends (h : s.roster.Extends next.roster) (index : Nat) :
    next.feed? (.tracker index) = s.feed? (.tracker index) := by
  obtain ⟨fresh, htrackers, hfresh⟩ := h
  simp only [feed?, htrackers]
  by_cases hindex : index < s.roster.trackers.length
  · rw [List.getElem?_append_left hindex]
  · have hnone : s.roster.trackers[index]? = none := List.getElem?_eq_none (by omega)
    rw [List.getElem?_append_right (by omega), hnone]
    cases ht : fresh[index - s.roster.trackers.length]? with
    | none => rfl
    | some t =>
      have hstage := hfresh t (List.mem_of_getElem? ht)
      simp only [Option.bind_some, Option.bind_none, Tracker.feed?, hstage]

lemma feed?_withFeeds (s : System) (F : TaskId → Feed → Feed) (task : TaskId) :
    (s.withFeeds F).feed? task = (s.feed? task).map (F task) := by
  cases task with
  | tracker index =>
    rw [feed?, feed?, getElem?_trackers_withFeeds]
    cases s.roster.trackers[index]? with
    | none => rfl
    | some t => exact t.feed?_updateFeed _
  | watcher index =>
    rw [feed?, feed?, getElem?_watchers_withFeeds]
    cases s.watchers[index]? with
    | none => rfl
    | some w => exact w.feed?_updateFeed _

/-- What input brings to a task comes in over its open watch. -/
lemma feed?_apply (s : System) (input : Input) (task : TaskId) :
    (s.apply input).feed? task =
      (s.feed? task).map ((input.arrival? task).elim id fun arrival => (·.add arrival)) := by
  have hid : s.feed? task = (s.feed? task).map id := by rw [Option.map_id, id]
  have hfeeds (arrival : Arrival) {F : TaskId → Feed → Feed} {reached : Prop} [Decidable reached]
      (hF : F task = if reached then (·.add arrival) else id) : (s.withFeeds F).feed? task =
        (s.feed? task).map
          ((if reached then some arrival else none).elim id fun arrival => (·.add arrival)) := by
    rw [feed?_withFeeds, hF]
    split <;> rfl
  cases input with
  | start role =>
    refine Eq.trans ?_ hid
    cases role with
    | tracker schedule =>
      cases task with
      | watcher index => rfl
      | tracker index => exact feed?_of_extends ⟨[_], rfl, by simp⟩ index
    | watcher cluster =>
      cases task with
      | tracker index => rfl
      | watcher index =>
        simp only [feed?, apply, start]
        by_cases hindex : index < s.watchers.length
        · rw [List.getElem?_append_left hindex]
        · have hnone : s.watchers[index]? = none := List.getElem?_eq_none (by omega)
          rw [List.getElem?_append_right (by omega), hnone]
          cases hw : [({ cluster } : Watcher)][index - s.watchers.length]? with
          | none => rfl
          | some w =>
            rw [List.mem_singleton.mp (List.mem_of_getElem? hw)]
            rfl
  | event kind event => exact hfeeds (.event event) rfl
  | close kind => exact hfeeds .ended rfl
  | arrive other arrival => exact hfeeds arrival rfl
  | items => exact hid
  | fault => exact hid
  | hold => exact hid
  | holdSinks => exact hid
  | cancel => exact hid

/-- A task that takes no step keeps its watch. -/
lemma feed?_of_step_ne (h : s.step setup task = some next) {other : TaskId}
    (hne : task ≠ other) : next.feed? other = s.feed? other := by
  cases task with
  | watcher index =>
    obtain ⟨w, change, -, hchange, rfl⟩ := step_watcher_eq_some h
    cases other with
    | watcher other =>
      have hother : index ≠ other := fun heq => hne (heq ▸ rfl)
      simp only [feed?, List.getElem?_modify_ne _ _ hother]
    | tracker other => exact feed?_of_extends (Watcher.step_cases hchange).extends_roster other
  | tracker index =>
    obtain ⟨t, stage, did, -, -, rfl⟩ := step_tracker_eq_some h
    cases other with
    | watcher other => rfl
    | tracker other =>
      have hother : index ≠ other := fun heq => hne (heq ▸ rfl)
      simp only [feed?, Roster.trackers_setStage, List.getElem?_modify_ne _ _ hother]

/-- A task that is not going to call any more has no watch. -/
lemma feed?_of_isOpen_eq_false (hphase : s.phase? task = some phase)
    (hover : phase.isOpen = false) : s.feed? task = none := by
  cases task with
  | watcher index =>
    obtain ⟨w, hw, rfl⟩ := Option.map_eq_some_iff.mp hphase
    simp only [feed?, hw, Option.bind_some]
    obtain ⟨cluster, stage⟩ := w
    cases stage with
    | following feed => cases hover
    | _ => rfl
  | tracker index =>
    obtain ⟨t, ht, rfl⟩ := Option.map_eq_some_iff.mp hphase
    simp only [feed?, ht, Option.bind_some]
    obtain ⟨schedule, token, stage⟩ := t
    cases stage with
    | following feed tracked => cases hover
    | delivering feed tracked report place => cases hover
    | _ => rfl

/-- What a step takes of the watch of the task that takes it is what waits first, unless the task is
not going to call any more. -/
lemma exists_taken (h : s.step setup task = some next) :
    ∃ taken, next.consumed task = s.consumed task ++ taken ∧
      ((s.feed? task).elim [] Feed.arrivals = taken ++ (next.feed? task).elim [] Feed.arrivals ∨
        taken = [] ∧ ∃ phase, next.phase? task = some phase ∧ phase.isOpen = false) := by
  cases task with
  | watcher index =>
    obtain ⟨w, change, hw, hchange, rfl⟩ := step_watcher_eq_some h
    refine ⟨change.did.filterMap arrival?, ?_, ?_⟩
    · unfold consumed
      rw [ofTask_append_map, if_pos rfl, List.filterMap_append]
    · rcases (Watcher.step_cases hchange).arrivals with hwaits | ⟨hnone, hover⟩
      · exact .inl (by simpa [feed?, hw] using hwaits)
      · exact .inr ⟨hnone, _, by simp [phase?, hw], hover⟩
  | tracker index =>
    obtain ⟨t, stage, did, ht, hdid, rfl⟩ := step_tracker_eq_some h
    obtain ⟨lines, hlines⟩ := failureLog_eq_logged s did
    refine ⟨did.filterMap arrival?, ?_, ?_⟩
    · unfold consumed
      rw [ofTask_append_map, if_pos rfl, hlines, List.filterMap_append, List.filterMap_append,
        filterMap_map_eq_nil (fun _ => rfl), List.append_nil]
    · rcases (Tracker.step_cases hdid).arrivals with hwaits | ⟨hnone, hover⟩
      · exact .inl (by simpa [feed?, ht] using hwaits)
      · exact .inr ⟨hnone, _, by simp [phase?, ht], hover⟩

namespace Streams

variable {came : List Arrival}

/-- A task that takes no step takes nothing. -/
lemma consumed_of_step_ne (h : s.step setup task = some next) {other : TaskId}
    (hne : task ≠ other) : next.consumed other = s.consumed other := by
  unfold consumed
  rw [ofTask_of_step_ne h hne]

lemma apply (h : s.Streams task came) (input : Input) :
    (s.apply input).Streams task (came ++ s.arriving task (.input input)) := by
  have hsame : (s.apply input).consumed task = s.consumed task := by
    unfold consumed
    rw [trace_apply]
  cases h with
  | waits h =>
    refine .waits ?_
    rw [hsame, feed?_apply, h]
    unfold arriving
    cases s.feed? task with
    | none => simp
    | some feed =>
      cases harrival : input.arrival? task with
      | none => simp [harrival]
      | some arrival =>
        simp only [Option.map_some, Option.elim_some, Option.any_some, Feed.arrivals_add,
          List.append_assoc, harrival]
        by_cases hclosed : feed.closed = true <;> simp [hclosed]
  | closed hphase hover h =>
    refine .closed ((s.staysAt_apply input task).of_some hphase) hover ?_
    rw [hsame]
    exact h.trans (List.prefix_append _ _)

lemma step (h : s.Streams task came) {other : TaskId} (hstep : s.step setup other = some next) :
    next.Streams task came := by
  by_cases hother : other = task
  · subst hother
    obtain ⟨taken, htaken, hwaits⟩ := exists_taken hstep
    cases h with
    | waits h =>
      rcases hwaits with hwaits | ⟨rfl, phase, hphase, hover⟩
      · refine .waits ?_
        rw [htaken, h, hwaits, List.append_assoc]
      · refine .closed hphase hover ?_
        rw [htaken, h, List.append_nil]
        exact List.prefix_append _ _
    | closed hphase hover h =>
      obtain ⟨before, after, did, hturn⟩ := exists_turn hstep
      obtain rfl := Option.some.inj (hphase.symm.trans hturn.before)
      have hnone : taken = [] := by
        rcases hwaits with hwaits | ⟨hnone, -⟩
        · rw [feed?_of_isOpen_eq_false hphase hover] at hwaits
          exact (List.append_eq_nil_iff.mp hwaits.symm).1
        · exact hnone
      exact .closed hturn.after (hturn.closed hover) (by rwa [htaken, hnone, List.append_nil])
  · have hsame := consumed_of_step_ne hstep hother
    cases h with
    | waits h => exact .waits (by rw [hsame, feed?_of_step_ne hstep hother, h])
    | closed hphase hover h =>
      exact .closed ((staysAt_of_step_ne hstep hother).of_some hphase) hover (by rwa [hsame])

/-- However a run goes, a task takes what comes in over its watches, in that order. -/
theorem play {moves : List Move} (h : s.Streams task came)
    (hplay : s.play setup moves = some next) :
    next.Streams task (came ++ s.streamed setup task moves) := by
  induction moves generalizing s came with
  | nil =>
    obtain rfl : s = next := Option.some.inj hplay
    simpa [streamed] using h
  | cons move moves ih =>
    cases hmid : s.move setup move with
    | none => simp [System.play, hmid] at hplay
    | some mid =>
      simp only [System.play, hmid] at hplay
      simp only [streamed, hmid, ← List.append_assoc]
      refine ih ?_ hplay
      cases move with
      | input input =>
        obtain rfl : s.apply input = mid := Option.some.inj hmid
        exact h.apply input
      | step other =>
        have hstep : s.step setup other = some mid := hmid
        simpa [arriving] using h.step hstep

lemma isPrefix (h : s.Streams task came) : s.consumed task <+: came := by
  cases h with
  | waits h =>
    rw [h]
    exact List.prefix_append _ _
  | closed hphase hover h => exact h

/-- Before a task calls for a list, it has taken everything. -/
lemma eq_consumed (h : s.Streams task came) (hphase : s.phase? task = some .idle) :
    s.consumed task = came := by
  have hnone : s.feed? task = none := by
    cases task with
    | watcher index =>
      obtain ⟨⟨cluster, stage⟩, hw, hidle⟩ := Option.map_eq_some_iff.mp hphase
      simp only [feed?, hw, Option.bind_some]
      cases stage with
      | following feed => cases hidle
      | _ => rfl
    | tracker index =>
      obtain ⟨⟨schedule, token, stage⟩, ht, hidle⟩ := Option.map_eq_some_iff.mp hphase
      simp only [feed?, ht, Option.bind_some]
      cases stage with
      | following feed tracked => cases hidle
      | delivering feed tracked report place => cases hidle
      | _ => rfl
  cases h with
  | waits h => rw [h, hnone, Option.elim_none, List.append_nil]
  | closed hother hover =>
    obtain rfl := Option.some.inj (hphase.symm.trans hother)
    cases hover

end Streams

end System

end BackupMonitor
