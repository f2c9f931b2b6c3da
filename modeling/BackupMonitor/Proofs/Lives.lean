import BackupMonitor.Proofs.Reports

/-!
# How often a backup is reported

A life of a backup ends when the backup is deleted. `ReportedOncePerLife` says of what a tracker
did that it reported no backup twice in one life, `EndsOncePerLife` says of a list of events that
none of them repeats the end of a backup that has not been deleted since.

A tracker forgets a backup when it reports it, so nothing that it remembers keeps it from reporting
a repeated end again: the first holds for a run exactly if the second holds for the events taken.

The proof goes through `Handled.note`, which goes over what a tracker did and assigns each part of
a report to the event that was taken last. A report is counted in the step that takes its event,
before any sink is handed it; so all that the sinks are handed later is noted by then.
-/

namespace BackupMonitor

open Occurrence

/-! ## Which event a report belongs to -/

/-- An event that was taken, and whether a report followed before the next one was taken. -/
structure Handled where
  /-- The event. -/
  event : Event
  /-- Whether a report followed. -/
  reported : Bool

namespace Handled

/-- Notes one thing that a task did; the event that was taken last stands in front. -/
def note (handled : List Handled) (what : Occurrence) : List Handled :=
  match what.event?, handled with
  | some event, _ => { event, reported := false } :: handled
  | none, last :: rest => { last with reported := last.reported || what.isReport } :: rest
  | none, [] => []

/-- The events that were taken, oldest first, each with whether a report followed. -/
def ofPast (past : List Occurrence) : List Handled :=
  (past.foldl note []).reverse

/-- An event on its own, as handled by the tracker of a schedule that reports what it says. -/
def ofEvent (schedule : String) (event : Event) : Handled where
  event := event
  reported := (event.report? schedule).isSome

/-- As long as no event is taken, reports belong to the one that was taken last. -/
lemma foldl_note_of_no_event {did : List Occurrence} (h : did.filterMap event? = [])
    (last : Handled) (rest : List Handled) :
    did.foldl note (last :: rest) =
      { last with reported := last.reported || did.any (·.isReport) } :: rest := by
  induction did generalizing last with
  | nil => simp
  | cons what did ih =>
    rw [List.filterMap_eq_nil_iff] at h
    have hwhat : what.event? = none := h what List.mem_cons_self
    have hdid : did.filterMap event? = [] :=
      List.filterMap_eq_nil_iff.mpr fun other hother => h other (List.mem_cons_of_mem _ hother)
    rw [List.foldl_cons]
    simp only [note, hwhat, ih hdid, List.any_cons, Bool.or_assoc]

/-- Without an event and without a report there is nothing to note. -/
lemma foldl_note_of_quiet {did : List Occurrence} (h : did.filterMap event? = [])
    (hquiet : did.any (·.isReport) = false) (handled : List Handled) :
    did.foldl note handled = handled := by
  cases handled with
  | nil =>
    -- there is no event that anything could be assigned to
    clear hquiet
    induction did with
    | nil => rfl
    | cons what did ih =>
      rw [List.filterMap_eq_nil_iff] at h
      have hwhat : what.event? = none := h what List.mem_cons_self
      rw [List.foldl_cons]
      simp only [note, hwhat]
      exact ih (List.filterMap_eq_nil_iff.mpr fun other hother =>
        h other (List.mem_cons_of_mem _ hother))
  | cons last rest => rw [foldl_note_of_no_event h, hquiet, Bool.or_false]

/-- A report that is already noted for the last event changes nothing. -/
lemma foldl_note_of_noted {did : List Occurrence} (h : did.filterMap event? = []) {last : Handled}
    (hnoted : last.reported = true) (rest : List Handled) :
    did.foldl note (last :: rest) = last :: rest := by
  rw [foldl_note_of_no_event h, hnoted, Bool.true_or, ← hnoted]

lemma any_isReport_logged (lines : List Log.Line) :
    (lines.map logged).any (·.isReport) = false := by
  rw [List.any_map]
  exact List.any_eq_false.mpr fun _ _ => by simp [isReport]

/-- Log lines are nothing to note. -/
@[simp] lemma foldl_note_logged (lines : List Log.Line) (handled : List Handled) :
    (lines.map logged).foldl note handled = handled :=
  foldl_note_of_quiet (filterMap_event?_logged lines) (any_isReport_logged lines) handled

end Handled

/-- A tracker that is handing out a report has it noted for the event it took last. -/
def TrackerStage.IsNoted (handled : List Handled) : TrackerStage → Prop
  | .delivering .. => ∃ last rest, handled = last :: rest ∧ last.reported = true
  | _ => True

lemma TrackerStage.isNoted_of_isBlank {stage : TrackerStage} (h : stage.IsBlank)
    (handled : List Handled) : stage.IsNoted handled := by
  unfold IsNoted
  split
  next => exact h.elim
  next => trivial

namespace Tracker

variable {setup : Setup} {view : View} {schedule : String} {stage stage' : TrackerStage}
  {did past : List Occurrence}

/-! ## A report is counted with its event -/

/-- A tracker counts a report on an event exactly if it makes one. -/
lemma react_measurements_any (schedule : String) (tracked : Tracked) (event : Event) :
    ((react schedule tracked event).measurements.map measured).any (·.isReport) =
      (event.report? schedule).isSome := by
  rw [← react_report schedule tracked event]
  have houtcome (outcome : Outcome) :
      (outcome.measurements.map measured).any (·.isReport) = true := by
    cases outcome <;> rfl
  unfold react
  split
  · rfl
  · split
    · split
      · rfl
      · simp only [reactToState]
        split
        · rfl
        · rfl
        · exact houtcome _
    · rfl

/-- Taking an event notes it, with a report if it makes one. -/
lemma foldl_note_take (feed : Feed) (tracked : Tracked) (event : Event) (handled : List Handled) :
    (take setup schedule feed tracked event).2.foldl Handled.note handled =
      Handled.ofEvent schedule event :: handled := by
  simp only [take, List.foldl_append, List.foldl_cons, List.cons_append, Handled.foldl_note_logged,
    Handled.note, event?]
  rw [Handled.foldl_note_of_no_event (filterMap_event?_measured _), react_measurements_any,
    Bool.false_or]
  rfl

/-- A tracker hands out a report only if it took an event that makes one. -/
lemma isNoted_take (feed : Feed) (tracked : Tracked) (event : Event) (handled : List Handled) :
    (take setup schedule feed tracked event).1.IsNoted
      (Handled.ofEvent schedule event :: handled) := by
  simp only [take, react_report]
  split
  next report hreport =>
    split
    · trivial
    · exact ⟨_, handled, rfl, by rw [Handled.ofEvent, hreport]; rfl⟩
  next => trivial

lemma isNoted_updateFeed {t : Tracker} {handled : List Handled} (h : t.stage.IsNoted handled)
    (f : Feed → Feed) : (t.updateFeed f).stage.IsNoted handled :=
  stage_updateFeed f (fun _ _ h => h) (fun _ _ _ _ h => h) h

/-! ## What one step notes -/

/-- A step notes the events it takes, each as handled on its own. -/
lemma Step.foldl_note (h : Step view schedule stage stage' did) {handled : List Handled}
    (hnoted : stage.IsNoted handled) :
    did.foldl Handled.note handled =
      ((did.filterMap event?).map (Handled.ofEvent schedule)).reverse ++ handled ∧
    stage'.IsNoted (did.foldl Handled.note handled) := by
  rcases h.sort with ⟨feed, tracked, event, queue, -, rfl, rfl, rfl⟩ |
    ⟨feed, tracked, report, place, rfl, rfl, rfl⟩ | hquiet
  · rw [foldl_note_take, filterMap_event?_take]
    exact ⟨rfl, isNoted_take _ _ _ _⟩
  · -- the report was noted when its event was taken, and the event is still the last one
    obtain ⟨last, rest, rfl, hlast⟩ := hnoted
    have hevent : (Tracker.deliver view feed tracked report place).2.filterMap event? = [] :=
      filterMap_event?_deliver feed tracked report place
    rw [Handled.foldl_note_of_noted hevent hlast, hevent]
    refine ⟨rfl, ?_⟩
    simp only [Tracker.deliver]
    split
    · trivial
    · split
      · exact ⟨last, rest, rfl, hlast⟩
      · trivial
  · have hreport : did.any (·.isReport) = false := by
      rw [List.any_eq_false]
      intro what hwhat
      rw [hquiet.report what hwhat]
      exact Bool.false_ne_true
    rw [Handled.foldl_note_of_quiet hquiet.event hreport, hquiet.event]
    exact ⟨rfl, TrackerStage.isNoted_of_isBlank hquiet.after handled⟩

/-! ## What a whole life notes -/

namespace History

variable {t : Tracker}

lemma foldl_note (h : History setup t past) :
    past.foldl Handled.note [] =
      ((past.filterMap event?).map (Handled.ofEvent t.schedule)).reverse ∧
    t.stage.IsNoted (past.foldl Handled.note []) := by
  induction h with
  | spawned hstage => rw [hstage]; exact ⟨rfl, trivial⟩
  | fed f h ih => exact ⟨by rw [schedule_updateFeed, ih.1], isNoted_updateFeed ih.2 f⟩
  | @stepped t past did view stage hview lines h hstep ih =>
    obtain ⟨hpast, hnoted⟩ := ih
    obtain ⟨hdid, hnext⟩ := hstep.foldl_note hnoted
    have hall : (past ++ (did ++ lines.map logged)).foldl Handled.note [] =
        did.foldl Handled.note (past.foldl Handled.note []) := by
      rw [List.foldl_append, List.foldl_append, Handled.foldl_note_logged]
    rw [hall]
    refine ⟨?_, hnext⟩
    rw [hdid, hpast]
    simp only [List.filterMap_append, filterMap_event?_logged, List.append_nil, List.map_append,
      List.reverse_append]

/-- A tracker makes a report of an event exactly if the event makes one on its own. -/
theorem handled_eq_map (h : History setup t past) :
    Handled.ofPast past = (past.filterMap event?).map (Handled.ofEvent t.schedule) := by
  rw [Handled.ofPast, h.foldl_note.1, List.reverse_reverse]

end History

end Tracker

/-! ## Once per life -/

/-- Between any two events of one backup that were reported, the deletion of the backup was
taken. -/
def ReportedOncePerLife (past : List Occurrence) : Prop :=
  ∀ first second between name, first :: between ++ [second] <:+: Handled.ofPast past →
    first.event.object.name = some name → second.event.object.name = some name →
    first.reported = true → second.reported = true →
    ∃ handled ∈ between, handled.event.change = .deleted ∧ handled.event.object.name = some name

/-- Between any two events that say the end of one backup of the schedule, the backup is deleted. -/
def EndsOncePerLife (schedule : String) (events : List Event) : Prop :=
  ∀ first second between name, first :: between ++ [second] <:+: events →
    first.object.name = some name → second.object.name = some name →
    (∃ report, first.Contributes schedule report) →
    (∃ report, second.Contributes schedule report) →
    ∃ event ∈ between, event.change = .deleted ∧ event.object.name = some name

lemma Handled.reported_ofEvent_iff {schedule : String} {event : Event} :
    (Handled.ofEvent schedule event).reported = true ↔
      ∃ report, event.Contributes schedule report := by
  show (event.report? schedule).isSome = true ↔ _
  rw [Option.isSome_iff_exists]
  simp only [Event.report?_eq_some_iff]

namespace System

variable {setup : Setup} {s : System}

/-- A tracker reports every backup at most once in each of its lives exactly if no event that it
takes repeats the end of a backup that has not been deleted since. -/
theorem reportedOncePerLife_iff (h : Reachable setup s) {index : Nat} {t : Tracker}
    (ht : s.roster.trackers[index]? = some t) :
    ReportedOncePerLife (s.trace.ofTask (.tracker index)) ↔
      EndsOncePerLife t.schedule ((s.trace.ofTask (.tracker index)).filterMap event?) := by
  have hhandled := (h.history ht).handled_eq_map
  generalize s.trace.ofTask (.tracker index) = past at hhandled ⊢
  unfold ReportedOncePerLife EndsOncePerLife
  rw [hhandled]
  constructor
  · intro hreported first second between name hwithin hfirst hsecond hends hends'
    -- the two events stand among the handled ones as they stand among the events
    have hmap : Handled.ofEvent t.schedule first :: between.map (Handled.ofEvent t.schedule) ++
        [Handled.ofEvent t.schedule second] <:+:
          (past.filterMap event?).map (Handled.ofEvent t.schedule) := by
      rw [List.infix_map_iff]
      exact ⟨_, hwithin, by simp⟩
    obtain ⟨handled, hmem, hdeleted⟩ := hreported _ _ _ name hmap hfirst hsecond
      (Handled.reported_ofEvent_iff.mpr hends) (Handled.reported_ofEvent_iff.mpr hends')
    obtain ⟨event, hevent, rfl⟩ := List.mem_map.mp hmem
    exact ⟨event, hevent, hdeleted⟩
  · intro hends first second between name hwithin hfirst hsecond hreported hreported'
    -- a stretch of the handled events comes from a stretch of the events
    obtain ⟨events, hevents, heq⟩ := List.infix_map_iff.mp hwithin
    obtain ⟨xs, ys, rfl, hxs, hys⟩ := List.map_eq_append_iff.mp heq.symm
    obtain ⟨e, rest, rfl, rfl, rfl⟩ := List.map_eq_cons_iff.mp hxs
    obtain ⟨e', rfl, rfl⟩ := List.map_eq_singleton_iff.mp hys
    obtain ⟨event, hevent, hdeleted⟩ := hends e e' rest name hevents hfirst hsecond
      (Handled.reported_ofEvent_iff.mp hreported) (Handled.reported_ofEvent_iff.mp hreported')
    exact ⟨_, List.mem_map_of_mem hevent, hdeleted⟩

end System

namespace Sample

/-- A backup fails, is deleted, and fails again under the same name. -/
def twoLives : List Move :=
  opening ++ news .modified (failed "b1") :: steps 3 ++ news .deleted (failed "b1") :: steps 1 ++
    news .modified (failed "b1") :: steps 3

/-- A backup fails, and then something else about it changes. -/
def repeatedEnd : List Move :=
  opening ++ news .modified (failed "b1") :: steps 3 ++ news .modified (failed "b1") :: steps 3

end Sample

/-- Two failures are no repetition if the backup is deleted between them. -/
theorem System.reportedOncePerLife_twoLives :
    Reachable Sample.setup (Sample.systemAfter Sample.twoLives) ∧
      (Sample.systemAfter Sample.twoLives).trace.deliveries.length = 4 ∧
      ReportedOncePerLife ((Sample.systemAfter Sample.twoLives).trace.ofTask (.tracker 0)) := by
  have h : Reachable Sample.setup (Sample.systemAfter Sample.twoLives) := ⟨Sample.twoLives, rfl⟩
  obtain ⟨t, ht⟩ : ∃ t, (Sample.systemAfter Sample.twoLives).roster.trackers[0]? = some t :=
    ⟨_, rfl⟩
  refine ⟨h, by rfl, (System.reportedOncePerLife_iff h ht).mpr ?_⟩
  have hevents : ((Sample.systemAfter Sample.twoLives).trace.ofTask (.tracker 0)).filterMap event? =
      [⟨.modified, Sample.failed "b1"⟩, ⟨.deleted, Sample.failed "b1"⟩,
        ⟨.modified, Sample.failed "b1"⟩] := rfl
  have hdeletion : ¬ ∃ report, Event.Contributes t.schedule
      ⟨.deleted, Sample.failed "b1"⟩ report := by
    rintro ⟨report, hreport⟩
    cases Event.report?_eq_some_iff.mpr hreport
  rw [hevents]
  rintro first second between name ⟨before, after, hwithin⟩ hfirst hsecond hends hends'
  -- the deletion is neither of the two ends, so it stands between them
  rcases before with _ | ⟨_, _ | ⟨_, _ | ⟨_, _⟩⟩⟩ <;>
    rcases between with _ | ⟨_, _ | ⟨_, _⟩⟩ <;> simp at hwithin
  · exact absurd (hwithin.2.1 ▸ hends') hdeletion
  · obtain ⟨rfl, rfl, -, -⟩ := hwithin
    exact ⟨_, List.mem_cons_self, rfl, hfirst⟩
  · exact absurd (hwithin.2.1 ▸ hends) hdeletion

/-- A tracker that takes two events about one failure reports it twice. -/
theorem System.not_reportedOncePerLife :
    ¬ ∀ (setup : Setup) (s : System) (index : Nat) (t : Tracker), Reachable setup s →
      s.roster.trackers[index]? = some t →
      ReportedOncePerLife (s.trace.ofTask (.tracker index)) := by
  intro hclaim
  have h : Reachable Sample.setup (Sample.systemAfter Sample.repeatedEnd) :=
    ⟨Sample.repeatedEnd, rfl⟩
  have hhandled : Handled.ofPast
      ((Sample.systemAfter Sample.repeatedEnd).trace.ofTask (.tracker 0)) =
      [⟨⟨.modified, Sample.failed "b1"⟩, true⟩, ⟨⟨.modified, Sample.failed "b1"⟩, true⟩] := rfl
  -- nothing stands between the two events, so no deletion does
  obtain ⟨handled, hmem, -⟩ := hclaim Sample.setup _ 0 _ h rfl _ _ [] "b1"
    (by rw [hhandled]; exact List.infix_rfl) rfl rfl rfl rfl
  exact List.not_mem_nil hmem

end BackupMonitor
