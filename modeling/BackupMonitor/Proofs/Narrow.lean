import BackupMonitor.Proofs.Prospects
import BackupMonitor.Proofs.TrackerMove

/-!
# What is about one schedule

A schedule is left alone with its name: `Input.only?` and `System.only` leave out every schedule
with another name, and every event about a backup that the schedule does not own. A tracker of the
schedule does then what it did before, except that it does not have to pass over the events that are
left out: `TrackerStage.Narrows` puts its stage beside the one that it has without these events, and
`Tracker.Step.narrows` says that every step either passes over such an event or is taken there too.
-/

namespace BackupMonitor

open Occurrence

/-- Whether an object of a kind is about the schedule of that name: a schedule that has no other
name, or a backup of it. -/
def Object.isAbout (name : String) (kind : ResourceKind) (object : Object) : Bool :=
  match kind with
  | .scheduledBackup => object.name.all (· == name)
  | .backup => object.isOwnedBySchedule name

/-- Whether what comes in over a watch of a kind is about the schedule: an event about it, or the
end of the watch. -/
def Arrival.isAbout (name : String) (kind : ResourceKind) : Arrival → Bool
  | .event news => news.object.isAbout name kind
  | .ended => true

/-- The input without other schedules and without events about the backups of others; `none` if
nothing is left of it. What comes in over the watch of one tracker is left if that is a tracker of
the schedule. Without the trackers of others it has another place, which is given. -/
def Input.only? (name : String) (place? : Nat → Option Nat) : Input → Option Input
  | .items .scheduledBackup objects =>
    some (.items .scheduledBackup (objects.filter (·.isAbout name .scheduledBackup)))
  | .event kind news => if news.object.isAbout name kind then some (.event kind news) else none
  | .arrive (.watcher index) arrival =>
    if arrival.isAbout name .scheduledBackup then some (.arrive (.watcher index) arrival) else none
  | .arrive (.tracker index) arrival =>
    if arrival.isAbout name .backup then
      (place? index).map fun place => .arrive (.tracker place) arrival
    else none
  | input => some input

/-- The system with no other schedules on its server. -/
def System.only (name : String) (s : System) : System :=
  s.apply (.items .scheduledBackup
    (s.server.schedules.items.filter (·.isAbout name .scheduledBackup)))

/-- What of an input is left starts the same task. -/
lemma Input.role?_of_only? {name : String} {place? : Nat → Option Nat} {input kept : Input}
    (h : input.only? name place? = some kept) : kept.role? = input.role? := by
  cases input with
  | items kind objects =>
    cases kind with
    | backup => rw [← Option.some.inj h]
    | scheduledBackup => rw [← Option.some.inj h]; rfl
  | event kind news =>
    simp only [only?] at h
    split at h
    next => rw [← Option.some.inj h]
    next => cases h
  | arrive task arrival =>
    cases task with
    | watcher index =>
      simp only [only?] at h
      split at h
      next => rw [← Option.some.inj h]
      next => cases h
    | tracker index =>
      simp only [only?] at h
      split at h
      next =>
        obtain ⟨place, -, rfl⟩ := Option.map_eq_some_iff.mp h
        rfl
      next => cases h
  | _ => rw [← Option.some.inj h]

lemma Input.filterMap_role?_only? {name : String} {place? : Nat → Option Nat} {inputs : List Input}
    (hroles : inputs.filterMap Input.role? = []) :
    (inputs.filterMap (Input.only? name place?)).filterMap Input.role? = [] := by
  rw [List.filterMap_eq_nil_iff] at hroles ⊢
  intro kept hkept
  obtain ⟨input, hinput, honly⟩ := List.mem_filterMap.mp hkept
  rw [role?_of_only? honly]
  exact hroles input hinput

/-! ## What comes in over a watch -/

namespace Feed

variable {name : String} {kind : ResourceKind} {news : Event}

/-- A watch without the events about others. -/
def only (name : String) (kind : ResourceKind) (feed : Feed) : Feed :=
  { feed with queue := feed.queue.filter (·.object.isAbout name kind) }

lemma only_push (feed : Feed) (h : news.object.isAbout name kind = true) :
    (feed.push news).only name kind = (feed.only name kind).push news := by
  unfold push only
  cases hclosed : feed.closed <;> simp [h, hclosed]

lemma only_push_of_not (feed : Feed) (h : news.object.isAbout name kind = false) :
    (feed.push news).only name kind = feed.only name kind := by
  unfold push only
  cases hclosed : feed.closed <;> simp [h, hclosed]

/-- What is about the schedule comes in there too. -/
lemma only_add (feed : Feed) {arrival : Arrival} (h : arrival.isAbout name kind = true) :
    (feed.add arrival).only name kind = (feed.only name kind).add arrival := by
  cases arrival with
  | event news => exact feed.only_push h
  | ended => rfl

/-- What is not about the schedule does not come in there. -/
lemma only_add_of_not (feed : Feed) {arrival : Arrival} (h : arrival.isAbout name kind = false) :
    (feed.add arrival).only name kind = feed.only name kind := by
  cases arrival with
  | event news => exact feed.only_push_of_not h
  | ended => cases h

/-- The next event is about the schedule, so it is the next one there too. -/
lemma queue_only_of_cons {feed : Feed} {queue : List Event} (hqueue : feed.queue = news :: queue)
    (h : news.object.isAbout name kind = true) :
    (feed.only name kind).queue = news :: (only name kind { feed with queue }).queue := by
  simp [only, hqueue, h]

/-- The next event is about others, so it is missing there. -/
lemma only_of_cons {feed : Feed} {queue : List Event} (hqueue : feed.queue = news :: queue)
    (h : news.object.isAbout name kind = false) :
    feed.only name kind = only name kind { feed with queue } := by
  simp [only, hqueue, h]

end Feed

/-! ## The stages of a tracker -/

/-- The stage of a tracker of the schedule, and its stage if nothing comes in about others. -/
inductive TrackerStage.Narrows (name : String) : TrackerStage → TrackerStage → Prop where
  /-- It has not run yet. -/
  | spawned : Narrows name .spawned .spawned
  /-- It is about to list. -/
  | ready : Narrows name .ready .ready
  /-- It waits for its list. -/
  | listing : Narrows name .listing .listing
  /-- It is about to watch, from any cursor. -/
  | listed (cursor cursor' : String) : Narrows name (.listed cursor) (.listed cursor')
  /-- It waits for its watch, from any cursor. -/
  | opening (cursor cursor' : String) : Narrows name (.opening cursor) (.opening cursor')
  /-- It waits for an event, whatever it tracks. -/
  | following (feed : Feed) (tracked tracked' : Tracked) :
      Narrows name (.following feed tracked) (.following (feed.only name .backup) tracked')
  /-- It is handing out the same report. -/
  | delivering (feed : Feed) (tracked tracked' : Tracked) (report : Report) (place : Nat) :
      Narrows name (.delivering feed tracked report place)
        (.delivering (feed.only name .backup) tracked' report place)
  /-- It has finished. -/
  | finished (error : Option TaskError) : Narrows name (.finished error) (.finished error)

namespace TrackerStage.Narrows

variable {name : String}

/-- Stages without a watch. -/
lemma of_finished {t : Tracker} (h : t.isFinished = true) : t.stage.Narrows name t.stage := by
  obtain ⟨schedule, token, stage⟩ := t
  cases stage with
  | finished error => exact .finished error
  | _ => cases h

lemma isFinished_eq {t t' : Tracker} (h : t.stage.Narrows name t'.stage) :
    t.isFinished = t'.isFinished := by
  obtain ⟨schedule, token, stage⟩ := t
  obtain ⟨schedule', token', stage'⟩ := t'
  cases h <;> rfl

/-- What comes in over the watches is narrowed. -/
lemma updateFeed {t t' : Tracker} {f f' : Feed → Feed}
    (hf : ∀ feed, (f feed).only name .backup = f' (feed.only name .backup))
    (h : t.stage.Narrows name t'.stage) :
    (t.updateFeed f).stage.Narrows name (t'.updateFeed f').stage := by
  obtain ⟨schedule, token, stage⟩ := t
  obtain ⟨schedule', token', stage'⟩ := t'
  cases h with
  | spawned => exact .spawned
  | ready => exact .ready
  | listing => exact .listing
  | listed => exact .listed _ _
  | opening => exact .opening _ _
  | following feed tracked tracked' =>
    show Narrows name _ (.following (f' (feed.only name .backup)) tracked')
    rw [← hf]
    exact .following _ _ _
  | delivering feed tracked tracked' report place =>
    show Narrows name _ (.delivering (f' (feed.only name .backup)) tracked' report place)
    rw [← hf]
    exact .delivering _ _ _ _ _
  | finished error => exact .finished error

end TrackerStage.Narrows

/-! ## The steps of a tracker -/

/-- The report that is handed to a sink, with the place of the sink. -/
def Occurrence.handed? : Occurrence → Option (Nat × Report)
  | delivered d => some (d.place, d.report)
  | _ => none

@[simp] lemma Occurrence.filterMap_handed?_logged (lines : List Log.Line) :
    (lines.map logged).filterMap handed? = [] := filterMap_map_eq_nil (fun _ => rfl) lines

@[simp] lemma Occurrence.filterMap_handed?_measured (measurements : List Measurement) :
    (measurements.map measured).filterMap handed? = [] :=
  filterMap_map_eq_nil (fun _ => rfl) measurements

/-- What is handed to a sink shows. -/
lemma Occurrence.filterMap_handed?_effect? (did : List Occurrence) :
    (did.filterMap effect?).filterMap handed? = did.filterMap handed? := by
  rw [List.filterMap_filterMap]
  refine List.filterMap_congr fun what _ => ?_
  cases what with
  | measured m => cases m <;> rfl
  | _ => rfl

/-- Calls of an open gate are answered alike. -/
lemma View.answer_eq_of_gate {view view' : View} {verb : Verb} {kind : ResourceKind}
    (h : (view.server.shelf kind).gate verb = (view'.server.shelf kind).gate verb) {α : Type}
    (success : α) : view.answer verb kind success = view'.answer verb kind success := by
  simp only [answer, h]

lemma View.answer_eq_of_climate {view view' : View} (h : view.climate = view'.climate) {α : Type}
    (verb : Verb) (success : α) :
    view.answer verb .backup success = view'.answer verb .backup success := by
  rw [← view.answer_climate false, h, view'.answer_climate]

/-- A call that fails does so whatever it would have brought. -/
lemma View.answer_of_error {view : View} {verb : Verb} {kind : ResourceKind} {α β : Type}
    {success : α} {e : TaskError} (h : view.answer verb kind success = some (.error e))
    (other : β) : view.answer verb kind other = some (.error e) := by
  rw [answer_eq_map] at h ⊢
  rcases hanswer : view.answer verb kind () with _ | _ | _
  · simp [hanswer] at h
  · simpa [hanswer, Except.map] using h
  · simp [hanswer, Except.map] at h

/-- A call that waits does so whatever it would bring. -/
lemma View.answer_of_none {view : View} {verb : Verb} {kind : ResourceKind} {α β : Type}
    {success : α} (h : view.answer verb kind success = none) (other : β) :
    view.answer verb kind other = none := by
  rw [answer_eq_map, Option.map_eq_none_iff] at h ⊢
  exact h

/-- A call that succeeds does so whatever it brings. -/
lemma View.answer_of_ok {view : View} {verb : Verb} {kind : ResourceKind} {α β : Type}
    {success result : α} (h : view.answer verb kind success = some (.ok result)) (other : β) :
    view.answer verb kind other = some (.ok other) := by
  rw [answer_eq_map] at h ⊢
  rcases hanswer : view.answer verb kind () with _ | _ | _
  · simp [hanswer] at h
  · simp [hanswer, Except.map] at h
  · simp [Except.map]

/-- An event about the backup of another schedule makes no report. -/
lemma Event.report?_eq_none {schedule : String} {event : Event}
    (h : event.object.isOwnedBySchedule schedule = false) : event.report? schedule = none := by
  obtain ⟨change, object⟩ := event
  unfold report? outcome?
  cases change <;> cases object.name <;> simp [h]

namespace Tracker

variable {name : String} {setup : Setup} {view view' : View}

/-- An event is taken without anything being handed to a sink. -/
lemma filterMap_handed?_take (setup : Setup) (schedule : String) (feed : Feed) (tracked : Tracked)
    (event : Event) : (take setup schedule feed tracked event).2.filterMap handed? = [] := by
  simp only [take, List.cons_append, List.filterMap_cons, List.filterMap_append, handed?,
    filterMap_handed?_logged, filterMap_handed?_measured, List.append_nil]

/-- A tracker comes to the same stage by an event, whatever it tracks. -/
lemma narrows_take (setup : Setup) (feed : Feed) (tracked tracked' : Tracked) (event : Event) :
    (take setup name feed tracked event).1.Narrows name
        (take setup name (feed.only name .backup) tracked' event).1 ∧
      (take setup name feed tracked event).2.filterMap handed? =
        (take setup name (feed.only name .backup) tracked' event).2.filterMap handed? := by
  refine ⟨?_, by rw [filterMap_handed?_take, filterMap_handed?_take]⟩
  simp only [take, react_report]
  cases event.report? name with
  | none => exact .following _ _ _
  | some report =>
    cases setup.sinks.isEmpty with
    | true => exact .following _ _ _
    | false => exact .delivering _ _ _ _ _

/-- An event about the backup of another schedule is passed over. -/
lemma exists_take_eq_following (setup : Setup) (feed : Feed) (tracked : Tracked) {event : Event}
    (h : event.object.isAbout name .backup = false) :
    ∃ next, (take setup name feed tracked event).1 = .following feed next := by
  simp only [take, react_report, Event.report?_eq_none h]
  exact ⟨_, rfl⟩

/-- A report is handed out in the same way, whatever the sinks answer. -/
lemma narrows_deliver (hsetup : view.setup = view'.setup) (feed : Feed) (tracked tracked' : Tracked)
    (report : Report) (place : Nat) :
    (deliver view feed tracked report place).1.Narrows name
        (deliver view' (feed.only name .backup) tracked' report place).1 ∧
      (deliver view feed tracked report place).2.filterMap handed? =
        (deliver view' (feed.only name .backup) tracked' report place).2.filterMap handed? := by
  simp only [deliver, hsetup]
  cases hsink : view'.setup.sinks[place]? with
  | none => exact ⟨.following _ _ _, rfl⟩
  | some sink =>
    refine ⟨?_, ?_⟩
    · by_cases hlast : place + 1 < view'.setup.sinks.length
      · simp only [hlast, if_true]
        exact .delivering _ _ _ _ _
      · simp only [hlast, if_false]
        exact .following _ _ _
    · simp only [List.filterMap_append, List.filterMap_cons, filterMap_handed?_logged,
        filterMap_handed?_measured, handed?, Sink.deliver]

/-- Most stages are left by way of the token. -/
lemma step_of_isCancellable {schedule : String} {token : Token} {stage : TrackerStage}
    (h : stage.isCancellable = true) :
    step view { schedule, token, stage } =
      if view.cancelled then some (finish none) else proceed view schedule stage := by
  cases stage with
  | spawned => cases h
  | delivering => cases h
  | finished => cases h
  | _ => rfl

/-- Every step of a tracker of the schedule passes over an event about others, or is one that it
takes without these events too. -/
theorem Step.narrows {stage stage' next : TrackerStage} {did : List Occurrence}
    (h : Step view name stage next did) (view' : View) (hclimate : view.climate = view'.climate)
    (hcancelled : view.cancelled = view'.cancelled) (hstage : stage.Narrows name stage')
    (token : Token) :
    next.Narrows name stage' ∧ did.filterMap handed? = [] ∨
      ∃ next' did', step view' { schedule := name, token, stage := stage' } = some (next', did') ∧
        next.Narrows name next' ∧ did.filterMap handed? = did'.filterMap handed? := by
  have hsetup : view.setup = view'.setup := congrArg Climate.setup hclimate
  have hheld : view.sinksHeld = view'.sinksHeld := congrArg Climate.sinksHeld hclimate
  have hproceed (hlive : view.cancelled = false) (hcancellable : stage'.isCancellable = true) :
      step view' { schedule := name, token, stage := stage' } = proceed view' name stage' := by
    rw [step_of_isCancellable hcancellable, ← hcancelled, hlive]
    rfl
  cases h with
  | begin =>
    cases hstage
    exact .inr ⟨_, _, rfl, .ready, rfl⟩
  | cancel hcancel hcancellable =>
    refine .inr ⟨_, _, ?_, .finished none, rfl⟩
    rw [step_of_isCancellable (by cases hstage <;> first | rfl | cases hcancellable), ← hcancelled,
      hcancel]
    rfl
  | callList hlive =>
    cases hstage
    exact .inr ⟨_, _, hproceed hlive rfl, .listing, rfl⟩
  | listFails hlive hanswer =>
    cases hstage
    rw [View.answer_eq_of_climate hclimate] at hanswer
    refine .inr ⟨_, _, ?_, .finished _, rfl⟩
    rw [hproceed hlive rfl]
    simp only [proceed, View.answer_of_error hanswer]
    rfl
  | listed hlive hanswer =>
    cases hstage
    rw [View.answer_eq_of_climate hclimate] at hanswer
    refine .inr ⟨.listed (view'.listing .backup).cursor, [.listed .backup (view'.listing .backup)],
      ?_, .listed _ _, rfl⟩
    rw [hproceed hlive rfl]
    simp only [proceed, View.answer_of_ok hanswer]
  | callWatch hlive =>
    cases hstage
    exact .inr ⟨_, _, hproceed hlive rfl, .opening _ _, rfl⟩
  | watchFails hlive hanswer =>
    cases hstage
    rw [View.answer_eq_of_climate hclimate] at hanswer
    refine .inr ⟨_, _, ?_, .finished _, rfl⟩
    rw [hproceed hlive rfl]
    simp only [proceed, hanswer]
    rfl
  | opened hlive hanswer =>
    cases hstage
    rw [View.answer_eq_of_climate hclimate] at hanswer
    refine .inr ⟨_, _, ?_, .following {} ∅ ∅, rfl⟩
    rw [hproceed hlive rfl]
    simp only [proceed, hanswer]
    rfl
  | @take feed tracked event queue hlive hqueue =>
    cases hstage with
    | following _ _ tracked' =>
      cases habout : event.object.isAbout name .backup with
      | true =>
        obtain ⟨hnarrows, hhanded⟩ :=
          narrows_take view.setup { feed with queue } tracked tracked' event
        refine .inr ⟨_, _, ?_, hnarrows, hhanded⟩
        rw [hproceed hlive rfl]
        simp only [proceed, Feed.queue_only_of_cons hqueue habout, hsetup]
        rfl
      | false =>
        obtain ⟨next, hnext⟩ :=
          exists_take_eq_following view.setup { feed with queue } tracked habout
        refine .inl ⟨?_, filterMap_handed?_take _ _ _ _ _⟩
        rw [hnext, Feed.only_of_cons hqueue habout]
        exact .following _ _ _
  | sawEnd hlive hqueue hclosed =>
    cases hstage with
    | following feed _ tracked' =>
      refine .inr ⟨_, _, ?_, .ready, rfl⟩
      rw [hproceed hlive rfl]
      simp [proceed, Feed.only, hqueue, hclosed]
  | @deliver feed tracked report place hfree =>
    cases hstage with
    | delivering _ _ tracked' =>
      obtain ⟨hnarrows, hhanded⟩ := narrows_deliver hsetup feed tracked tracked' report place
      refine .inr ⟨_, _, ?_, hnarrows, hhanded⟩
      simp [step, ← hheld, hfree]

/-- A tracker that cannot take a step cannot take one without the events about others. -/
lemma step_eq_none_of_narrows {t t' : Tracker} (h : t.step view = none) (view' : View)
    (hclimate : view.climate = view'.climate) (hcancelled : view.cancelled = view'.cancelled)
    (hstage : t.stage.Narrows name t'.stage) : t'.step view' = none := by
  have hheld : view.sinksHeld = view'.sinksHeld := congrArg Climate.sinksHeld hclimate
  obtain ⟨schedule, token, stage⟩ := t
  obtain ⟨schedule', token', stage'⟩ := t'
  -- a stage that is left by way of the token waits for something else
  have hwaits (hcancellable : stage.isCancellable = true) :
      view'.cancelled = false ∧ proceed view schedule stage = none := by
    rw [step_of_isCancellable hcancellable] at h
    split at h
    next => cases h
    next hlive => exact ⟨by simpa [← hcancelled] using hlive, h⟩
  cases hstage with
  | spawned => cases h
  | ready => cases (hwaits rfl).2
  | listed cursor cursor' => cases (hwaits rfl).2
  | listing =>
    obtain ⟨hlive, hproceed⟩ := hwaits rfl
    rw [step_of_isCancellable rfl, hlive]
    simp only [proceed] at hproceed ⊢
    split at hproceed
    next hanswer =>
      rw [View.answer_eq_of_climate hclimate] at hanswer
      simp [View.answer_of_none hanswer]
    next => cases hproceed
    next => cases hproceed
  | opening cursor cursor' =>
    obtain ⟨hlive, hproceed⟩ := hwaits rfl
    rw [step_of_isCancellable rfl, hlive]
    simp only [proceed] at hproceed ⊢
    split at hproceed
    next hanswer =>
      rw [View.answer_eq_of_climate hclimate] at hanswer
      simp [hanswer]
    next => cases hproceed
    next => cases hproceed
  | following feed tracked tracked' =>
    obtain ⟨hlive, hproceed⟩ := hwaits rfl
    rw [step_of_isCancellable rfl, hlive]
    simp only [proceed] at hproceed ⊢
    split at hproceed
    next => cases hproceed
    next hqueue =>
      split at hproceed
      next => cases hproceed
      next hopen => simp [Feed.only, hqueue, hopen]
  | delivering feed tracked tracked' report place =>
    simp only [step] at h ⊢
    rw [← hheld]
    split at h
    next hheld => rw [if_pos hheld]
    next => cases h
  | finished error => rfl

end Tracker

end BackupMonitor
