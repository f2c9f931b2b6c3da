import BackupMonitor.Proofs.FeedFrames
import BackupMonitor.Proofs.RawWatch
import BackupMonitor.Proofs.WatchStreams

/-!
# A system over connections

`Wired` is a system whose tasks poll their watches over connections. It does what the system does
that has the events of those connections at hand (`Wired.decode`): it takes the same steps
(`Wired.map_decode_step`), and input comes in alike (`Wired.decode_apply`, `Wired.decode_arrive`).
-/

namespace BackupMonitor

/-! ## What a task finds in its watch -/

/-- Whether the tracker waits for an event. -/
def TrackerStage.awaitsEvent : TrackerStage → Bool
  | .following _ _ => true
  | _ => false

/-- Whether the watcher waits for an event. -/
def WatcherStage.awaitsEvent : WatcherStage → Bool
  | .following _ => true
  | _ => false

namespace Tracker

variable {view : View} {t : Tracker}

/-- What is left of the watch makes no difference to the event that is taken. -/
lemma take_feed (setup : Setup) (schedule : String) (token : Token) (feed rest : Feed)
    (tracked : Tracked) (event : Event) : take setup schedule rest tracked event =
      ((updateFeed { schedule, token, stage := (take setup schedule feed tracked event).1 }
        fun _ => rest).stage, (take setup schedule feed tracked event).2) := by
  simp only [take]
  cases (react schedule tracked event).report with
  | none => rfl
  | some report => cases setup.sinks.isEmpty <;> rfl

/-- What waits in the watch makes no difference to the report that is handed out. -/
lemma deliver_feed (view : View) (schedule : String) (token : Token) (feed : Feed)
    (f : Feed → Feed) (tracked : Tracked) (report : Report) (place : Nat) :
    deliver view (f feed) tracked report place =
      ((updateFeed
          { schedule, token, stage := (deliver view feed tracked report place).1 } f).stage,
        (deliver view feed tracked report place).2) := by
  simp only [deliver]
  split
  · rfl
  · split <;> rfl

/-- A tracker that waits for an event looks at what its watch holds first, and leaves the rest. -/
lemma step_answer (hawaits : t.stage.awaitsEvent = true) (hcancel : view.cancelled = false)
    (feed : Feed) : (t.updateFeed fun _ => feed).step view =
      ((t.updateFeed fun _ => feed.answer.feed).step view).map fun outcome =>
        ((updateFeed { t with stage := outcome.1 } fun _ => feed.rest).stage, outcome.2) := by
  obtain ⟨schedule, token, stage⟩ := t
  obtain ⟨queue, closed⟩ := feed
  cases stage with
  | following old tracked =>
    cases queue with
    | nil => cases closed <;> simp [step, proceed, updateFeed, hcancel, Feed.answer, Poll.feed]
    | cons event queue =>
      simp only [step, updateFeed, hcancel, Bool.false_eq_true, if_false]
      exact congrArg some (take_feed view.setup schedule token {} { queue, closed } tracked event)
  | _ => cases hawaits

/-- A tracker that does not wait for an event does not look at its watch. One that opens a watch has
nothing in it yet. -/
lemma step_updateFeed {f g : Feed → Feed}
    (hblind : t.stage.awaitsEvent = false ∨ view.cancelled = true)
    (hkept : t.feed?.isSome = true → g = f) (hfresh : t.feed? = none → g {} = {}) :
    (t.updateFeed f).step view = (t.step view).map fun outcome =>
      ((updateFeed { t with stage := outcome.1 } g).stage, outcome.2) := by
  obtain ⟨schedule, token, stage⟩ := t
  cases stage with
  | following feed tracked =>
    have hcancel : view.cancelled = true := hblind.resolve_left (by simp [TrackerStage.awaitsEvent])
    simp only [step, updateFeed, hcancel, if_true]
    rfl
  | delivering feed tracked report place =>
    obtain rfl := hkept rfl
    simp only [step, updateFeed]
    split
    · rfl
    · exact congrArg some (deliver_feed view schedule token feed g tracked report place)
  | spawned => rfl
  | ready => cases hcancel : view.cancelled <;> simp [step, updateFeed, hcancel, proceed, finish]
  | listing =>
    cases hcancel : view.cancelled with
    | true => simp [step, updateFeed, hcancel, finish]
    | false =>
      simp only [step, updateFeed, hcancel, proceed]
      cases view.answer .list .backup (view.listing .backup) with
      | none => rfl
      | some answer => cases answer <;> rfl
  | listed cursor =>
    cases hcancel : view.cancelled <;> simp [step, updateFeed, hcancel, proceed, finish]
  | opening cursor =>
    cases hcancel : view.cancelled with
    | true => simp [step, updateFeed, hcancel, finish]
    | false =>
      simp only [step, updateFeed, hcancel, proceed]
      cases view.answer .watch .backup () with
      | none => rfl
      | some answer =>
        cases answer with
        | error e => rfl
        | ok _ => simp [hfresh rfl]
  | finished error => rfl

end Tracker

namespace Watcher

variable {view : View} {r : Roster} {w : Watcher}

/-- A watcher that waits for an event looks at what its watch holds first, and leaves the rest. -/
lemma step_answer (hawaits : w.stage.awaitsEvent = true) (hcancel : view.cancelled = false)
    (feed : Feed) : (w.updateFeed fun _ => feed).step view r =
      ((w.updateFeed fun _ => feed.answer.feed).step view r).map fun change =>
        { change with
          stage := (updateFeed { w with stage := change.stage } fun _ => feed.rest).stage } := by
  obtain ⟨cluster, stage⟩ := w
  obtain ⟨queue, closed⟩ := feed
  cases stage with
  | following old =>
    cases queue with
    | nil =>
      cases closed <;> simp [step, proceed, updateFeed, hcancel, Feed.answer, Poll.feed, drain]
    | cons event queue =>
      simp [step, proceed, updateFeed, hcancel, Feed.answer, Poll.feed, Feed.rest]
  | _ => cases hawaits

/-- A watcher that does not wait for an event does not look at its watch. One that opens a watch has
nothing in it yet. -/
lemma step_updateFeed {f g : Feed → Feed}
    (hblind : w.stage.awaitsEvent = false ∨ view.cancelled = true)
    (hfresh : w.feed? = none → g {} = {}) :
    (w.updateFeed f).step view r = (w.step view r).map fun change =>
      { change with stage := (updateFeed { w with stage := change.stage } g).stage } := by
  obtain ⟨cluster, stage⟩ := w
  cases hcancel : view.cancelled with
  | true =>
    cases stage with
    | draining next count =>
      simp only [step, updateFeed]
      split
      · cases next <;> rfl
      · rfl
    | spawned => rfl
    | finished error => rfl
    | _ => simp only [step, updateFeed, hcancel]; rfl
  | false =>
    cases stage with
    | following feed =>
      rw [hcancel] at hblind
      exact absurd hblind (by simp [WatcherStage.awaitsEvent])
    | draining next count =>
      simp only [step, updateFeed]
      split
      · cases next <;> rfl
      · rfl
    | listing =>
      simp only [step, updateFeed, hcancel, proceed]
      cases view.answer .list .scheduledBackup (view.listing .scheduledBackup) with
      | none => rfl
      | some answer => cases answer <;> rfl
    | opening cursor =>
      simp only [step, updateFeed, hcancel, proceed]
      cases view.answer .watch .scheduledBackup () with
      | none => rfl
      | some answer =>
        cases answer with
        | error e => rfl
        | ok _ => simp [hfresh rfl]
    | _ => simp only [step, updateFeed, hcancel, proceed]; rfl

end Watcher

namespace System

variable {setup : Setup} {s : System} {task : TaskId}

/-- Whether the task waits for an event. -/
def awaitsEvent (s : System) : TaskId → Bool
  | .watcher index => s.watchers[index]?.any (·.stage.awaitsEvent)
  | .tracker index => s.roster.trackers[index]?.any (·.stage.awaitsEvent)

/-- Whether the next step of the task looks at what its watch holds. -/
def listens (s : System) (task : TaskId) : Bool :=
  s.awaitsEvent task && !s.isCancelled task

/-- A task that looks at its watch takes what the watch holds first, and leaves the rest. -/
lemma step_of_listens (h : s.listens task = true) (setup : Setup) (feed : Feed) :
    (s.withFeeds (feedOf task fun _ => feed)).step setup task =
      ((s.withFeeds (feedOf task fun _ => feed.answer.feed)).step setup task).map
        (·.withFeeds (feedOf task fun _ => feed.rest)) := by
  rw [listens, Bool.and_eq_true, Bool.not_eq_true'] at h
  obtain ⟨hawaits, hcancel⟩ := h
  cases task with
  | tracker index =>
    refine step_feedOf_tracker fun t ht => ?_
    rw [isCancelled_tracker ht] at hcancel
    rw [awaitsEvent, ht] at hawaits
    exact Tracker.step_answer hawaits hcancel feed
  | watcher index =>
    refine step_feedOf_watcher fun w hw => ?_
    rw [awaitsEvent, hw] at hawaits
    exact Watcher.step_answer hawaits hcancel feed

/-- A task that does not look at its watch does the same whatever the watch holds, and leaves all of
it. One that opens a watch has nothing in it yet. -/
lemma step_of_not_listens (h : s.listens task = false) (setup : Setup) {f g : Feed → Feed}
    (hkept : (s.feed? task).isSome = true → g = f) (hfresh : s.feed? task = none → g {} = {}) :
    (s.withFeeds (feedOf task f)).step setup task =
      (s.step setup task).map (·.withFeeds (feedOf task g)) := by
  -- both sides as systems in which the watch of the task was changed
  suffices hsame : (s.withFeeds (feedOf task f)).step setup task =
      ((s.withFeeds (feedOf task id)).step setup task).map (·.withFeeds (feedOf task g)) by
    rwa [withFeeds_feedOf_id] at hsame
  rw [listens, Bool.and_eq_false_iff, Bool.not_eq_false'] at h
  cases task with
  | tracker index =>
    refine step_feedOf_tracker fun t ht => ?_
    rw [Tracker.updateFeed_id]
    rw [isCancelled_tracker ht, awaitsEvent, ht] at h
    rw [feed?, ht] at hkept hfresh
    exact Tracker.step_updateFeed h hkept hfresh
  | watcher index =>
    refine step_feedOf_watcher fun w hw => ?_
    rw [Watcher.updateFeed_id]
    rw [awaitsEvent, hw] at h
    rw [feed?, hw] at hfresh
    exact Watcher.step_updateFeed h hfresh

/-- A task that has just started has no watch. -/
lemma start_withFeeds (s : System) (role : Role) (F : TaskId → Feed → Feed) :
    (s.start role).withFeeds F = (s.withFeeds F).start role := by
  cases role with
  | tracker schedule =>
    simp only [start, withFeeds, Roster.withFeeds, List.mapIdx_append]
    rfl
  | watcher cluster =>
    simp only [start, withFeeds, List.mapIdx_append]
    rfl

/-- Changes the open watch of every task but one. -/
def feedsBut (task : TaskId) (F : TaskId → Feed → Feed) (other : TaskId) : Feed → Feed :=
  if other = task then id else F other

@[simp] lemma feedsBut_self (task : TaskId) (F : TaskId → Feed → Feed) :
    feedsBut task F task = id :=
  if_pos rfl

end System

/-! ## The system over connections -/

/-- A system that gets its watches over connections. The tasks of `system` have nothing to do with
the feeds that they hold: whoever looks at a watch polls the connection. -/
structure Wired where
  /-- The server and the tasks. -/
  system : System := {}
  /-- The connections, one for each task. -/
  wires : TaskId → Wire := fun _ => {}
  /-- What the streams logged. -/
  streamLog : List Log.Line := []

namespace Wired

variable {setup : Setup} {W : Wired} {task : TaskId}

/-- One step of a task; `none` if it waits or has finished. A task that looks at its watch sees the
answer to a poll; one that opens a watch gets a connection over which nothing has come in. -/
def step (setup : Setup) (W : Wired) (task : TaskId) : Option Wired :=
  if W.system.listens task then
    let polled := (W.wires task).poll task.kind
    ((W.system.withFeeds (System.feedOf task fun _ => polled.answer.feed)).step setup task).map
      fun next =>
        { system := next
          wires := Function.update W.wires task polled.wire
          streamLog := W.streamLog ++ polled.log }
  else
    (W.system.step setup task).map fun next =>
      { W with
        system := next
        wires :=
          if (W.system.feed? task).isSome then W.wires else Function.update W.wires task {} }

/-- Over each connection something comes in. -/
def arrive (W : Wired) (chunks : TaskId → Chunk) : Wired :=
  { W with wires := fun task => (W.wires task).receive (chunks task) }

/-- Takes in input from outside. -/
def apply (W : Wired) : Input → Wired
  | .event kind event =>
    W.arrive fun task => if task.kind = kind then (Arrival.event event).chunk else {}
  | .close kind => W.arrive fun task => if task.kind = kind then Arrival.ended.chunk else {}
  | .arrive task arrival => W.arrive fun other => if other = task then arrival.chunk else {}
  | input => { W with system := W.system.apply input }

/-- The system that has the events of the connections at hand. -/
def decode (W : Wired) : System :=
  W.system.withFeeds fun task _ => (W.wires task).feed

/-- Only the connection of one task has changed. -/
lemma decode_update (next : System) (wires : TaskId → Wire) (task : TaskId) (wire : Wire)
    (log : List Log.Line) :
    decode { system := next, wires := Function.update wires task wire, streamLog := log } =
      (next.withFeeds (System.feedOf task fun _ => wire.feed)).withFeeds
        (System.feedsBut task fun other _ => (wires other).feed) := by
  rw [decode, System.withFeeds_withFeeds]
  congr 1
  funext other
  by_cases hother : other = task
  · subst hother
    simp only [System.feedOf_self, System.feedsBut_self, Function.id_comp, Function.update_self]
  · simp only [System.feedOf, System.feedsBut, if_neg hother, Function.comp_id,
      Function.update_of_ne hother]

/-- A step over connections is a step of the system that has the events at hand. -/
theorem map_decode_step (setup : Setup) (W : Wired) (task : TaskId) :
    (W.step setup task).map decode = W.decode.step setup task := by
  -- the watches of the others play no part, so they can be put in place after the step
  have hdecode := decode_update W.system W.wires task (W.wires task) W.streamLog
  rw [Function.update_eq_self] at hdecode
  rw [show W.decode = _ from hdecode, System.step_withFeeds (System.feedsBut_self task _)]
  cases hlistens : W.system.listens task with
  | true =>
    obtain ⟨hanswer, hrest⟩ := Wire.poll_eq task.kind (W.wires task)
    rw [System.step_of_listens hlistens setup (W.wires task).feed]
    simp only [step, hlistens, if_true, Option.map_map, ← hanswer, ← hrest]
    congr 1
    funext next
    exact decode_update _ _ _ _ _
  | false =>
    simp only [step, hlistens, Bool.false_eq_true, if_false, Option.map_map]
    cases hfeed : W.system.feed? task with
    | some feed =>
      rw [System.step_of_not_listens hlistens setup (fun _ => rfl)
        (fun hnone => absurd (hfeed.symm.trans hnone) (Option.some_ne_none feed)),
        Option.map_map]
      congr 1
      funext next
      have hafter := decode_update next W.wires task (W.wires task) W.streamLog
      rwa [Function.update_eq_self] at hafter
    | none =>
      -- if the step opens a watch, nothing has come in over it
      have hopens : (W.system.feed? task).isSome = true →
          (fun _ : Feed => ({} : Feed)) = fun _ => (W.wires task).feed :=
        fun hsome => absurd hsome (by rw [hfeed]; exact Bool.false_ne_true)
      rw [System.step_of_not_listens hlistens setup hopens fun _ => rfl, Option.map_map]
      congr 1
      funext next
      exact decode_update _ _ _ _ _

/-- The feeds that the connections amount to. -/
def feeds (W : Wired) (task : TaskId) : Feed :=
  (W.wires task).feed

/-- What the tasks hold in their watches otherwise plays no part. -/
lemma withFeeds_decode (W : Wired) (feeds : TaskId → Feed) :
    (W.decode.withFeeds fun task _ => feeds task) = W.system.withFeeds fun task _ => feeds task :=
  System.withFeeds_withFeeds _ _ _

lemma feeds_arrive (W : Wired) (chunks : TaskId → Chunk) :
    (W.arrive chunks).feeds = fun task => (W.feeds task).receive (chunks task) :=
  funext fun task => Wire.feed_receive (W.wires task) (chunks task)

/-- What comes in over the connections comes in over the watches. -/
lemma decode_arrive (W : Wired) (chunks : TaskId → Chunk) :
    (W.arrive chunks).decode = W.decode.withFeeds fun task => (·.receive (chunks task)) := by
  rw [decode, decode, System.withFeeds_withFeeds]
  congr 1
  funext task _
  exact Wire.feed_receive _ _

/-- Input does over connections what it does over watches. -/
theorem decode_apply (W : Wired) (input : Input) :
    (W.apply input).decode = W.decode.apply input := by
  -- those whom it reaches get it, and the others get nothing
  have hreached (arrival : Arrival) (reached : TaskId → Prop) [DecidablePred reached] :
      (W.arrive fun task => if reached task then arrival.chunk else {}).decode =
        W.decode.withFeeds fun task => if reached task then (·.add arrival) else id := by
    rw [decode_arrive]
    congr 1
    funext task feed
    split
    · exact feed.receive_chunk arrival
    · exact feed.receive_nothing
  cases input with
  | start role => exact System.start_withFeeds _ _ _
  | event kind event => exact hreached (.event event) (·.kind = kind)
  | close kind => exact hreached .ended (·.kind = kind)
  | arrive task arrival => exact hreached arrival (· = task)
  | items kind objects => rfl
  | fault verb kind message => rfl
  | hold verb kind held => rfl
  | holdSinks held => rfl
  | cancel => rfl

end Wired

end BackupMonitor
