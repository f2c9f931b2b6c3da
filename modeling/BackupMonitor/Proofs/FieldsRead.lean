import BackupMonitor.Proofs.Wired

/-!
# What a tracker reads of a backup

A tracker reads the name of a backup, whether the backup belongs to its schedule, and its phase; of
one that completed also when it started and stopped, and of one that failed also the error. Nothing
else of an object makes a difference: two events that agree on that (`Event.ReadsAlike`) get the
same reaction (`Tracker.react_eq`), and trackers whose watches hold such events take the same step
(`Tracker.step_readsAlike`).
-/

namespace BackupMonitor

open Occurrence

/-! ## Events that read alike -/

/-- Two backups state the same, as far as a tracker reads them. -/
structure Object.ReadsAlike (backup backup' : Object) : Prop where
  /-- They have the same name. -/
  name : backup.name = backup'.name
  /-- Their phase reads the same. -/
  phase : backup.textAt Phase.path = backup'.textAt Phase.path
  /-- If they completed, the times read the same. -/
  times : Phase.ofBackup backup = .ok .completed →
    backup.textAt Outcome.startedAtPath = backup'.textAt Outcome.startedAtPath ∧
      backup.textAt Outcome.stoppedAtPath = backup'.textAt Outcome.stoppedAtPath
  /-- If they failed, the error reads the same. -/
  error : Phase.ofBackup backup = .ok .failed →
    backup.textAt Outcome.errorPath = backup'.textAt Outcome.errorPath

/-- Two events say the same to the tracker of a schedule, as far as it reads them. -/
structure Event.ReadsAlike (schedule : String) (event event' : Event) : Prop where
  /-- They are about the same change. -/
  change : event.change = event'.change
  /-- Both backups belong to the schedule, or both do not. -/
  owned : event.object.isOwnedBySchedule schedule = event'.object.isOwnedBySchedule schedule
  /-- The backups state the same. -/
  object : event.object.ReadsAlike event'.object

namespace Object.ReadsAlike

variable {backup backup' : Object} {phase : Phase}

lemma ofBackup (h : backup.ReadsAlike backup') :
    Phase.ofBackup backup = Phase.ofBackup backup' := by
  unfold Phase.ofBackup
  rw [h.phase]

/-- The times matter where a backup completed. -/
lemma timesOf (h : backup.ReadsAlike backup') (hphase : Phase.ofBackup backup = .ok .completed) :
    Outcome.timesOf backup = Outcome.timesOf backup' := by
  obtain ⟨hstarted, hstopped⟩ := h.times hphase
  unfold Outcome.timesOf Outcome.timestampAt
  rw [hstarted, hstopped]

/-- The error matters where a backup failed. -/
lemma errorOf (h : backup.ReadsAlike backup') (hphase : Phase.ofBackup backup = .ok .failed) :
    Outcome.errorOf backup = Outcome.errorOf backup' := by
  unfold Outcome.errorOf
  rw [h.error hphase]

/-- So what is made of a backup in a phase depends on the fields for that phase. -/
lemma ofPhase (h : backup.ReadsAlike backup') (hphase : Phase.ofBackup backup = .ok phase) :
    Outcome.ofPhase backup phase = Outcome.ofPhase backup' phase := by
  cases phase with
  | completed => simp only [Outcome.ofPhase, h.timesOf hphase]
  | failed => simp only [Outcome.ofPhase, h.errorOf hphase]
  | _ => rfl

lemma clockWarnings (h : backup.ReadsAlike backup') (hphase : Phase.ofBackup backup = .ok phase) :
    Outcome.clockWarnings backup phase = Outcome.clockWarnings backup' phase := by
  cases phase with
  | completed => simp only [Outcome.clockWarnings, h.timesOf hphase, h.name]
  | _ => rfl

/-- What is read of a backup is all that an observation depends on. -/
theorem observe (h : backup.ReadsAlike backup') (tracked : Tracked) :
    tracked.observe backup = tracked.observe backup' := by
  unfold Tracked.observe
  rw [← h.name, ← h.ofBackup]
  cases backup.name with
  | none => rfl
  | some name =>
    cases hphase : Phase.ofBackup backup with
    | error cause => rfl
    | ok phase =>
      simp only [Tracked.observationLog, h.ofPhase hphase, h.clockWarnings hphase]

end Object.ReadsAlike

lemma Event.ReadsAlike.refl (schedule : String) (event : Event) :
    event.ReadsAlike schedule event :=
  ⟨rfl, rfl, rfl, rfl, fun _ => ⟨rfl, rfl⟩, fun _ => rfl⟩

namespace Tracker

variable {schedule : String} {event event' : Event}

/-- Events that read alike get the same reaction. -/
theorem react_eq (h : event.ReadsAlike schedule event') (tracked : Tracked) :
    react schedule tracked event = react schedule tracked event' := by
  unfold react
  rw [← h.object.name, ← h.owned, ← h.change]
  cases event.object.name with
  | none => rfl
  | some name => simp only [reactToState, h.object.observe]

/-- What the events mean to the tracker of a schedule, one after the other. -/
def reactAll (schedule : String) : Tracked → List Event → List Reaction
  | _, [] => []
  | tracked, event :: events =>
    react schedule tracked event ::
      reactAll schedule (react schedule tracked event).tracked events

/-- So do events that read alike one by one. -/
theorem reactAll_eq {events events' : List Event}
    (h : List.Forall₂ (Event.ReadsAlike schedule) events events') (tracked : Tracked) :
    reactAll schedule tracked events = reactAll schedule tracked events' := by
  induction h generalizing tracked with
  | nil => rfl
  | cons hevent _ ih => rw [reactAll, reactAll, react_eq hevent, ih]

end Tracker

/-! ## Watches that read alike -/

/-- The events in two watches read alike to the tracker of a schedule, one by one, and both watches
end after them, or none does. -/
structure Feed.ReadsAlike (schedule : String) (feed feed' : Feed) : Prop where
  /-- The events read alike. -/
  queue : List.Forall₂ (Event.ReadsAlike schedule) feed.queue feed'.queue
  /-- Both watches end, or none does. -/
  closed : feed.closed = feed'.closed

namespace Feed.ReadsAlike

variable {schedule : String} {feed feed' : Feed}

lemma empty (schedule : String) : ReadsAlike schedule {} {} := ⟨.nil, rfl⟩

lemma close (h : feed.ReadsAlike schedule feed') : feed.close.ReadsAlike schedule feed'.close :=
  ⟨h.queue, rfl⟩

lemma push (h : feed.ReadsAlike schedule feed') {event event' : Event}
    (hevent : event.ReadsAlike schedule event') :
    (feed.push event).ReadsAlike schedule (feed'.push event') := by
  obtain ⟨queue, closed⟩ := feed
  obtain ⟨queue', closed'⟩ := feed'
  obtain ⟨hqueue, rfl⟩ : List.Forall₂ (Event.ReadsAlike schedule) queue queue' ∧
    closed = closed' := ⟨h.queue, h.closed⟩
  cases closed with
  | true => exact h
  | false => exact ⟨List.rel_append hqueue (.cons hevent .nil), rfl⟩

lemma add (h : feed.ReadsAlike schedule feed') (arrival : Arrival) :
    (feed.add arrival).ReadsAlike schedule (feed'.add arrival) := by
  cases arrival with
  | event event => exact h.push (.refl schedule event)
  | ended => exact h.close

end Feed.ReadsAlike

/-! ## Steps of a tracker -/

/-- What is to be known of this if a backup is in it: of an event, the change and the name. -/
def Occurrence.gist : Occurrence → Occurrence
  | took event => .took { change := event.change, object := { name := event.object.name } }
  | what => what

namespace Tracker

variable {setup : Setup} {view view' : View} {t : Tracker} {stage : TrackerStage}
  {did : List Occurrence} {schedule : String}

/-- What a tracker sees when it takes a step: of the past only what the sinks got. -/
structure SeesAlike (view view' : View) : Prop where
  /-- The setup is the same. -/
  setup : view.setup = view'.setup
  /-- The server is the same. -/
  server : view.server = view'.server
  /-- The sinks are held in both or in none. -/
  sinksHeld : view.sinksHeld = view'.sinksHeld
  /-- The tracker is cancelled in both or in none. -/
  cancelled : view.cancelled = view'.cancelled
  /-- The sinks got the same. -/
  earlier : view.earlier = view'.earlier

lemma step_eq_of_seesAlike (h : SeesAlike view view') (t : Tracker) :
    t.step view = t.step view' := by
  obtain ⟨setup, server, held, cancelled, trace⟩ := view
  obtain ⟨setup', server', held', cancelled', trace'⟩ := view'
  obtain ⟨hsetup, hserver, hheld, hcancelled, hearlier⟩ := h
  simp only at hsetup hserver hheld hcancelled
  subst hsetup hserver hheld hcancelled
  obtain ⟨schedule, token, stage⟩ := t
  cases stage with
  | delivering feed tracked report place => simp only [step, deliver, hearlier]
  | _ => rfl

/-- Events that read alike are taken alike. -/
lemma take_readsAlike {event event' : Event} (h : event.ReadsAlike schedule event')
    (setup : Setup) (feed : Feed) (tracked : Tracked) :
    (take setup schedule feed tracked event').1 = (take setup schedule feed tracked event).1 ∧
      (take setup schedule feed tracked event').2.map gist =
        (take setup schedule feed tracked event).2.map gist := by
  have hgist (event : Event) (did : List Occurrence) : (took event :: did).map gist =
      .took { change := event.change, object := { name := event.object.name } } :: did.map gist :=
    rfl
  simp only [take, ← react_eq h, List.cons_append, hgist, h.change, h.object.name, and_self]

/-- A tracker without a watch at most opens a new one. -/
lemma step_of_feed?_none (hnone : t.feed? = none) (feed' : Feed)
    (h : t.step view = some (stage, did)) :
    (t.updateFeed fun _ => feed').step view =
        some ((updateFeed { t with stage } fun _ => {}).stage, did) ∧
      ∀ next, Tracker.feed? { t with stage } = some next → next = {} := by
  obtain ⟨schedule, token, now⟩ := t
  have hblind : TrackerStage.awaitsEvent now = false ∨ view.cancelled = true :=
    .inl (by cases now <;> first | rfl | cases hnone)
  have hstep := step_updateFeed (t := { schedule, token, stage := now }) (f := fun _ => feed')
    (g := fun _ => {}) hblind
    (fun hsome => absurd hsome (by rw [hnone]; exact Bool.false_ne_true)) fun _ => rfl
  rw [h] at hstep
  refine ⟨hstep, fun next hnext => ?_⟩
  cases step_cases h with
  | opened => exact (Option.some.inj hnext).symm
  | take => cases hnone
  | deliver => cases hnone
  | _ => cases hnext

/-- Trackers with watches that read alike take the same step, up to what they read. -/
theorem step_readsAlike {feed' : Feed}
    (hfeed : ∀ feed, t.feed? = some feed → feed.ReadsAlike t.schedule feed')
    (h : t.step view = some (stage, did)) :
    ∃ next' did', (t.updateFeed fun _ => feed').step view =
        some ((updateFeed { t with stage } fun _ => next').stage, did') ∧
      did'.map gist = did.map gist ∧
      ∀ next, Tracker.feed? { t with stage } = some next → next.ReadsAlike t.schedule next' := by
  obtain ⟨schedule, token, now⟩ := t
  cases now with
  | following feed tracked =>
    obtain ⟨queue, closed⟩ := feed
    obtain ⟨queue', closed'⟩ := feed'
    obtain ⟨hqueue, rfl⟩ : List.Forall₂ (Event.ReadsAlike schedule) queue queue' ∧
      closed = closed' := ⟨(hfeed _ rfl).queue, (hfeed _ rfl).closed⟩
    cases hcancel : view.cancelled with
    | true =>
      -- it finishes whatever its watch holds
      simp only [step, hcancel, if_true] at h
      obtain ⟨rfl, rfl⟩ := Prod.mk.inj (Option.some.inj h)
      exact ⟨{}, _, by simp only [step, updateFeed, hcancel]; rfl, rfl, by simp [feed?]⟩
    | false =>
      cases hqueue with
      | nil =>
        simp only [step, proceed, hcancel, Bool.false_eq_true, if_false] at h
        split at h
        next hclosed =>
          obtain ⟨rfl, rfl⟩ := Prod.mk.inj (Option.some.inj h)
          refine ⟨{}, _, ?_, rfl, by simp [feed?]⟩
          simp [step, updateFeed, proceed, hcancel, hclosed]
        next => cases h
      | @cons event event' queue queue' hevent hqueue =>
        simp only [step, proceed, hcancel, Bool.false_eq_true, if_false] at h
        obtain ⟨hstage, hdid⟩ :=
          take_readsAlike hevent view.setup { queue := queue', closed } tracked
        rw [take_feed view.setup schedule token { queue, closed } { queue := queue', closed }
          tracked event, Option.some.inj h] at hstage hdid
        refine ⟨{ queue := queue', closed }, _, ?_, hdid, ?_⟩
        · simp only [step, updateFeed, proceed, hcancel, Bool.false_eq_true, if_false]
          exact congrArg some (Prod.ext hstage rfl)
        · have htaken : Tracker.feed? { schedule, token, stage :=
              (take view.setup schedule { queue, closed } tracked event).1 } =
                some { queue, closed } :=
            feed?_take { schedule, token } schedule { queue, closed } tracked event
          rw [Option.some.inj h] at htaken
          intro next hnext
          obtain rfl : { queue, closed } = next := Option.some.inj (htaken.symm.trans hnext)
          exact ⟨hqueue, rfl⟩
  | delivering feed tracked report place =>
    have hblind : TrackerStage.awaitsEvent (.delivering feed tracked report place) = false ∨
      view.cancelled = true := .inl rfl
    have hstep := step_updateFeed (f := fun _ => feed') (g := fun _ => feed')
      (t := { schedule, token, stage := .delivering feed tracked report place }) hblind
      (fun _ => rfl) fun hnone => by cases hnone
    rw [h] at hstep
    refine ⟨feed', did, hstep, rfl, fun next hnext => ?_⟩
    simp only [step] at h
    split at h
    next => cases h
    next =>
      have hfeed' : Tracker.feed? { schedule, token, stage :=
          (deliver view feed tracked report place).1 } = some feed :=
        feed?_deliver { schedule, token } feed tracked report place
      rw [Option.some.inj h] at hfeed'
      obtain rfl : feed = next := Option.some.inj (hfeed'.symm.trans hnext)
      exact hfeed feed rfl
  | _ =>
    obtain ⟨hstep, hempty⟩ := step_of_feed?_none rfl feed' h
    exact ⟨{}, did, hstep, rfl, fun next hnext => hempty next hnext ▸ .empty schedule⟩

end Tracker

end BackupMonitor
