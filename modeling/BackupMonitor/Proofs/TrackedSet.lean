import BackupMonitor.Proofs.Malformed
import BackupMonitor.Proofs.UnreadFields
import Mathlib.Data.List.DropRight

/-!
# What is tracked

What a tracker tracks is a function of the events that it took since its watch was opened. For one
backup some events remove it (`Event.Removes`), some mark it with a phase (`Event.Marks`), and no
other event matters to it. A backup is tracked if it was marked since it was removed last, and
`Phase.kept` says under which phase: under the last one that does not end it, and only if there
was none, under the first one that does.
-/

namespace BackupMonitor

open Occurrence

/-! ## Events that matter to a backup -/

namespace Event

variable {schedule name : String} {event : Event} {phase : Phase}

/-- The event takes the backup of that name off the list of a tracker. -/
inductive Removes (schedule name : String) (event : Event) : Prop where
  /-- A backup of the schedule was deleted. -/
  | deleted (hname : event.object.name = some name)
      (howner : event.object.isOwnedBySchedule schedule = true) (hchange : event.change = .deleted)
  /-- The backup does not refer to the schedule, whatever happened to it. -/
  | disowned (hname : event.object.name = some name)
      (howner : event.object.isOwnedBySchedule schedule = false)
  /-- The backup ended, and its end is reported. -/
  | reported {report : Report} (hname : event.object.name = some name)
      (hreport : event.Contributes schedule report)

/-- The event shows a backup of the schedule in a phase and makes no report: the phase does not
end the backup, or the data about the end are malformed. -/
structure Marks (schedule name : String) (event : Event) (phase : Phase) : Prop where
  /-- The backup has that name. -/
  named : event.object.name = some name
  /-- The backup refers to the schedule as its owner. -/
  owned : event.object.isOwnedBySchedule schedule = true
  /-- The backup appeared or took a new state. -/
  change : event.change = .added ∨ event.change = .modified
  /-- The phase can be read. -/
  readable : Phase.ofBackup event.object = .ok phase
  /-- If the phase ends the backup, something about the end cannot be read. -/
  ending : phase.isTerminal = true → event.object.IsMalformed

lemma removes_iff : event.Removes schedule name ↔ event.object.name = some name ∧
    (event.object.isOwnedBySchedule schedule = false ∨ event.change = .deleted ∨
      (event.report? schedule).isSome = true) := by
  rw [Option.isSome_iff_exists]
  simp only [report?_eq_some_iff]
  constructor
  · intro h
    cases h with
    | deleted hname howner hchange => exact ⟨hname, .inr (.inl hchange)⟩
    | disowned hname howner => exact ⟨hname, .inl howner⟩
    | reported hname hreport => exact ⟨hname, .inr (.inr ⟨_, hreport⟩)⟩
  · rintro ⟨hname, howner | hchange | ⟨report, hreport⟩⟩
    · exact .disowned hname howner
    · cases howner : event.object.isOwnedBySchedule schedule with
      | true => exact .deleted hname howner hchange
      | false => exact .disowned hname howner
    · exact .reported hname hreport

instance : Decidable (event.Removes schedule name) := decidable_of_iff _ removes_iff.symm

/-- The phase with which the event marks the backup of that name, if it does. -/
def mark? (schedule name : String) (event : Event) : Option Phase :=
  if event.object.name = some name ∧ ¬ event.Removes schedule name then
    (Phase.ofBackup event.object).toOption
  else none

/-- An event of the schedule that does not remove its backup makes no report. -/
lemma concerns_of_not_removes (hname : event.object.name = some name)
    (h : ¬ event.Removes schedule name) :
    event.Concerns schedule ∧ event.report? schedule = none := by
  simp only [removes_iff, hname, true_and, not_or, Bool.not_eq_false, Option.not_isSome_iff_eq_none]
    at h
  obtain ⟨howner, hchange, hreport⟩ := h
  refine ⟨concerns_iff.mpr ⟨?_, ⟨name, hname⟩, howner⟩, hreport⟩
  cases hkind : event.change with
  | added => exact .inl rfl
  | modified => exact .inr rfl
  | deleted => exact absurd hkind hchange

/-- An event about a backup of the schedule makes a report unless its state says no outcome. -/
lemma Concerns.report?_eq_none_iff (h : event.Concerns schedule) :
    event.report? schedule = none ↔
      ∀ outcome, Outcome.ofBackup event.object ≠ .ok (some outcome) := by
  rw [report?, Option.map_eq_none_iff, Option.eq_none_iff_forall_ne_some]
  simp only [ne_eq, outcome?_eq_some_iff, h, true_and]

end Event

namespace Outcome

variable {backup : Object} {phase : Phase}

/-- The state of a backup that has ended says an outcome unless it is malformed. -/
lemma ofPhase_of_isTerminal (backup : Object) (h : phase.isTerminal = true) :
    (∃ e, ofPhase backup phase = .error e) ∨
      ∃ outcome, ofPhase backup phase = .ok (some outcome) := by
  cases phase with
  | completed => cases htimes : timesOf backup <;> simp [ofPhase, htimes]
  | failed => cases herror : errorOf backup <;> simp [ofPhase, herror]
  | unset => cases h
  | running => cases h
  | other name => cases h

/-- The state of a backup that has not ended says no outcome. -/
lemma ofPhase_of_not_isTerminal (h : phase.isTerminal = false) :
    ofPhase backup phase = .ok none := by
  cases phase with
  | completed => cases h
  | failed => cases h
  | unset => rfl
  | running => rfl
  | other name => rfl

end Outcome

namespace Event

variable {schedule name : String} {event : Event} {phase : Phase}

lemma Marks.concerns (h : event.Marks schedule name phase) : event.Concerns schedule :=
  concerns_iff.mpr ⟨h.change, ⟨name, h.named⟩, h.owned⟩

/-- The state of a backup that an event marks says no outcome. -/
lemma Marks.ofPhase (h : event.Marks schedule name phase) :
    (∃ e, Outcome.ofPhase event.object phase = .error e ∧ phase.isTerminal = true) ∨
      (Outcome.ofPhase event.object phase = .ok none ∧ phase.isTerminal = false) := by
  cases hend : phase.isTerminal with
  | false => exact .inr ⟨Outcome.ofPhase_of_not_isTerminal hend, rfl⟩
  | true =>
    obtain ⟨e, he⟩ := (Tracked.observe_eq_error_iff ∅ event.object).mpr (h.ending hend)
    exact .inl ⟨e, (Tracked.observe_eq_error_of_phase h.named h.readable).mp he, rfl⟩

/-- No event both marks and removes a backup. -/
lemma Marks.not_removes (h : event.Marks schedule name phase) : ¬ event.Removes schedule name := by
  have hreport : event.report? schedule = none := by
    rw [h.concerns.report?_eq_none_iff]
    intro outcome houtcome
    rw [Outcome.ofBackup, h.readable] at houtcome
    rcases h.ofPhase with ⟨e, he, -⟩ | ⟨hnone, -⟩
    · cases he.symm.trans houtcome
    · cases hnone.symm.trans houtcome
  rw [removes_iff]
  rintro ⟨-, howner | hdeleted | hsome⟩
  · cases h.owned.symm.trans howner
  · rcases h.change with hchange | hchange <;> cases hchange.symm.trans hdeleted
  · simp [hreport] at hsome

theorem mark?_eq_some_iff : event.mark? schedule name = some phase ↔
    event.Marks schedule name phase := by
  constructor
  · intro h
    unfold mark? at h
    split at h
    next hevent =>
      obtain ⟨hname, hremoves⟩ := hevent
      obtain ⟨hconcerns, hreport⟩ := concerns_of_not_removes hname hremoves
      have hreadable : Phase.ofBackup event.object = .ok phase := by
        cases hphase : Phase.ofBackup event.object with
        | error cause => simp [hphase, Except.toOption] at h
        | ok other => simpa [hphase, Except.toOption] using h
      refine ⟨hname, (concerns_iff.mp hconcerns).2.2, hconcerns.change, hreadable, fun hend => ?_⟩
      rcases Outcome.ofPhase_of_isTerminal event.object hend with ⟨e, he⟩ | ⟨outcome, ho⟩
      · refine (Tracked.observe_eq_error_iff ∅ event.object).mp ⟨e, ?_⟩
        exact (Tracked.observe_eq_error_of_phase hname hreadable).mpr he
      · refine absurd ?_ (hconcerns.report?_eq_none_iff.mp hreport outcome)
        rw [Outcome.ofBackup, hreadable]
        exact ho
    next => cases h
  · intro h
    rw [mark?, if_pos ⟨h.named, h.not_removes⟩, h.readable]
    rfl

end Event

/-! ## One event -/

/-- What becomes of the entry of a backup when its state is observed. -/
def Object.nextEntry (backup : Object) (entry : Option Phase) : Option Phase :=
  match Phase.ofBackup backup with
  | .error _ => entry
  | .ok phase =>
    match Outcome.ofPhase backup phase with
    | .error _ => entry.or (some phase)
    | .ok (some _) => none
    | .ok none => some phase

/-- What a backup is kept under when it is marked with a phase: a phase that ends it counts only if
it was not kept before. -/
def Phase.mark (phase : Phase) (kept : Option Phase) : Option Phase :=
  if phase.isTerminal then kept.or (some phase) else some phase

namespace Tracker

variable {schedule name : String} {tracked : Tracked} {event : Event} {phase : Phase}

lemma tracked_reactToState (schedule name : String) (tracked : Tracked) (backup : Object) :
    (reactToState schedule name tracked backup).tracked = (tracked.observe backup).tracked := by
  simp only [reactToState]
  split <;> rfl

/-- An event about a backup of the schedule is an observation of the backup. -/
lemma tracked_react_of_concerns (h : event.Concerns schedule) :
    (react schedule tracked event).tracked = (tracked.observe event.object).tracked := by
  obtain ⟨hchange, ⟨name, hname⟩, howned⟩ := Event.concerns_iff.mp h
  rcases hchange with hchange | hchange <;>
    simp [react, hname, howned, hchange, tracked_reactToState]

lemma get?_discover (tracked : Tracked) (name other : String) (phase : Phase) :
    (tracked.discover name phase).get? other =
      if other = name then (tracked.get? name).or (some phase) else tracked.get? other := by
  unfold Tracked.discover
  cases hold : tracked.get? name with
  | none => simp [hold]
  | some old => by_cases hother : other = name <;> simp [hold, hother]

/-- An observation writes the entry of its backup and no other. -/
lemma get?_observe (tracked : Tracked) (backup : Object) (name : String) :
    (tracked.observe backup).tracked.get? name =
      if backup.name = some name then backup.nextEntry (tracked.get? name)
      else tracked.get? name := by
  cases hname : backup.name with
  | none => simp [Tracked.observe, hname]
  | some own =>
    simp only [Tracked.observe, hname, Object.nextEntry, Option.some.injEq]
    cases Phase.ofBackup backup with
    | error cause => simp
    | ok phase =>
      cases hend : Outcome.ofPhase backup phase with
      | error e => by_cases hown : own = name <;>
          simp [hend, get?_discover, hown, eq_comm (a := name)]
      | ok outcome => cases outcome <;> by_cases hown : own = name <;>
          simp [hend, hown, eq_comm (a := name)]

/-- An event matters to no backup but its own. -/
lemma get?_react_of_other (h : event.object.name ≠ some name) :
    (react schedule tracked event).tracked.get? name = tracked.get? name := by
  obtain ⟨change, object⟩ := event
  cases hname : object.name with
  | none => simp [react, hname]
  | some other =>
    have hother : name ≠ other := fun heq => h (heq ▸ hname)
    have hobserve : (tracked.observe object).tracked.get? name = tracked.get? name := by
      rw [get?_observe, if_neg h]
    cases howned : object.isOwnedBySchedule schedule with
    | false => simp [react, hname, howned, hother]
    | true => cases change <;>
        simp [react, hname, howned, tracked_reactToState, hobserve, hother]

lemma get?_react_of_removes (h : event.Removes schedule name) :
    (react schedule tracked event).tracked.get? name = none := by
  cases h with
  | deleted hname howner hchange => simp [react, hname, howner, hchange]
  | disowned hname howner => simp [react, hname, howner]
  | reported hname hreport =>
    obtain ⟨outcome, houtcome, -⟩ :=
      Option.map_eq_some_iff.mp (Event.report?_eq_some_iff.mpr hreport)
    obtain ⟨hconcerns, hstate⟩ := Event.outcome?_eq_some_iff.mp houtcome
    obtain ⟨phase, hphase, hend⟩ := Outcome.ofBackup_eq_some_iff.mp hstate
    rw [tracked_react_of_concerns hconcerns]
    simp [Tracked.observe, hname, hphase, hend]

lemma get?_react_of_marks (h : event.Marks schedule name phase) :
    (react schedule tracked event).tracked.get? name = phase.mark (tracked.get? name) := by
  rw [tracked_react_of_concerns h.concerns, Phase.mark]
  rcases h.ofPhase with ⟨e, he, hend⟩ | ⟨hnone, hend⟩
  · simp [Tracked.observe, h.named, h.readable, he, hend, get?_discover]
  · simp [Tracked.observe, h.named, h.readable, hnone, hend]

/-- An event of which the name or the phase cannot be read leaves alone what is tracked. -/
lemma tracked_react_of_unreadable (h : event.object.name = none ∨
    event.Concerns schedule ∧ event.object.content.IsMistyped Phase.path) :
    (react schedule tracked event).tracked = tracked := by
  rcases h with hname | ⟨hconcerns, hphase⟩
  · simp [react, hname]
  · obtain ⟨cause, hcause⟩ := Phase.ofBackup_eq_error_iff.mpr hphase
    obtain ⟨name, hname⟩ := hconcerns.name
    rw [tracked_react_of_concerns hconcerns]
    simp [Tracked.observe, hname, hcause]

/-- What one event means to one backup. -/
theorem get?_react (schedule name : String) (tracked : Tracked) (event : Event) :
    (react schedule tracked event).tracked.get? name =
      if event.Removes schedule name then none
      else ((event.mark? schedule name).map (·.mark (tracked.get? name))).getD
        (tracked.get? name) := by
  split
  next hremoves => exact get?_react_of_removes hremoves
  next hremoves =>
    cases hmark : event.mark? schedule name with
    | some phase => exact get?_react_of_marks (Event.mark?_eq_some_iff.mp hmark)
    | none =>
      by_cases hname : event.object.name = some name
      · -- the event is about the backup, so it is the phase that cannot be read
        have hconcerns := (Event.concerns_of_not_removes hname hremoves).1
        cases hphase : Phase.ofBackup event.object with
        | error cause =>
          have hmistyped := Phase.ofBackup_eq_error_iff.mp ⟨cause, hphase⟩
          rw [tracked_react_of_unreadable (.inr ⟨hconcerns, hmistyped⟩)]
          rfl
        | ok phase => simp [Event.mark?, hname, hremoves, hphase, Except.toOption] at hmark
      · exact get?_react_of_other hname

end Tracker

/-! ## Many events -/

/-- What a backup is kept under after it was marked with phases: the last one that does not end it
or, if there is none, the first one. -/
def Phase.kept (marks : List Phase) : Option Phase :=
  (marks.filter fun phase => !phase.isTerminal).getLast?.or marks.head?

/-- The phases with which a backup was marked since it was removed last, oldest first. -/
def Event.marksSince (schedule name : String) (events : List Event) : List Phase :=
  (events.rtakeWhile fun event => !decide (event.Removes schedule name)).filterMap
    (mark? schedule name)

/-- What a tracker tracks after it took events. -/
def Tracker.trackedAfter (schedule : String) (tracked : Tracked) (events : List Event) : Tracked :=
  events.foldl (fun tracked event => (react schedule tracked event).tracked) tracked

@[simp] lemma Phase.kept_nil : kept [] = none := rfl

lemma Phase.kept_concat (marks : List Phase) (phase : Phase) :
    kept (marks ++ [phase]) = phase.mark (kept marks) := by
  unfold kept mark
  cases hend : phase.isTerminal with
  | false => simp [List.filter_append, hend]
  | true => simp [List.filter_append, hend]

lemma Phase.kept_eq_none_iff {marks : List Phase} : kept marks = none ↔ marks = [] := by
  cases marks <;> simp [kept]

/-- Where a list with one more at its end is cut: before the last one, or earlier. -/
lemma concat_eq_append_cons_iff {α : Type} {xs ys zs : List α} {a b : α} :
    xs ++ [a] = ys ++ b :: zs ↔
      (zs = [] ∧ xs = ys ∧ a = b) ∨ ∃ rest, zs = rest ++ [a] ∧ xs = ys ++ b :: rest := by
  rcases List.eq_nil_or_concat' zs with rfl | ⟨rest, c, rfl⟩
  · simp
  · have hassoc : ys ++ b :: (rest ++ [c]) = (ys ++ b :: rest) ++ [c] := by simp
    rw [hassoc, List.append_singleton_inj]
    constructor
    · rintro ⟨hxs, rfl⟩
      exact .inr ⟨rest, rfl, hxs⟩
    · rintro (⟨hnil, -⟩ | ⟨other, hrest, hxs⟩)
      · simp at hnil
      · obtain ⟨rfl, rfl⟩ := List.append_singleton_inj.mp hrest
        exact ⟨hxs, rfl⟩

namespace Event

variable {schedule name : String} {events : List Event} {event : Event}

@[simp] lemma marksSince_nil : marksSince schedule name [] = [] := rfl

lemma marksSince_concat_of_removes (h : event.Removes schedule name) :
    marksSince schedule name (events ++ [event]) = [] := by
  simp [marksSince, h]

lemma marksSince_concat_of_not_removes (h : ¬ event.Removes schedule name) :
    marksSince schedule name (events ++ [event]) =
      marksSince schedule name events ++ (event.mark? schedule name).toList := by
  cases hmark : event.mark? schedule name <;>
    simp [marksSince, h, hmark]

/-- There are phases to look at exactly if an event marked the backup that none removed later. -/
lemma marksSince_ne_nil_iff : marksSince schedule name events ≠ [] ↔
    ∃ earlier event later phase, events = earlier ++ event :: later ∧
      event.Marks schedule name phase ∧ ∀ other ∈ later, ¬ other.Removes schedule name := by
  induction events using List.reverseRecOn with
  | nil => simp
  | append_singleton events last ih =>
    simp only [concat_eq_append_cons_iff]
    by_cases hlast : last.Removes schedule name
    · -- an event that removes the backup neither marks it nor comes later than a mark that counts
      rw [marksSince_concat_of_removes hlast]
      simp only [ne_eq, not_true_eq_false, false_iff]
      rintro ⟨earlier, event, _, phase, ⟨rfl, rfl, rfl⟩ | ⟨later, rfl, rfl⟩, hmarks, hlater⟩
      · exact hmarks.not_removes hlast
      · exact hlater last (by simp) hlast
    · rw [marksSince_concat_of_not_removes hlast]
      constructor
      · intro hmarks
        cases hmark : last.mark? schedule name with
        | some phase =>
          exact ⟨events, last, [], phase, .inl ⟨rfl, rfl, rfl⟩, mark?_eq_some_iff.mp hmark, by simp⟩
        | none =>
          rw [hmark, Option.toList_none, List.append_nil] at hmarks
          obtain ⟨earlier, event, later, phase, rfl, hevent, hlater⟩ := ih.mp hmarks
          refine ⟨earlier, event, later ++ [last], phase, .inr ⟨later, rfl, rfl⟩, hevent, ?_⟩
          simpa [or_imp, forall_and, hlast] using hlater
      · rintro ⟨earlier, event, _, phase, ⟨rfl, rfl, rfl⟩ | ⟨later, rfl, rfl⟩, hmarks, hlater⟩
        · rw [mark?_eq_some_iff.mpr hmarks]
          simp
        · have hne := ih.mpr ⟨earlier, event, later, phase, rfl, hmarks,
            fun other hother => hlater other (by simp [hother])⟩
          simp [hne]

end Event

/-- What is kept of one backup after events is what its marks say. -/
theorem Tracker.get?_trackedAfter (schedule name : String) (events : List Event) :
    (trackedAfter schedule ∅ events).get? name =
      Phase.kept (Event.marksSince schedule name events) := by
  induction events using List.reverseRecOn with
  | nil => rfl
  | append_singleton events event ih =>
    have hstep : trackedAfter schedule ∅ (events ++ [event]) =
        (react schedule (trackedAfter schedule ∅ events) event).tracked := by
      simp [trackedAfter]
    rw [hstep, get?_react, ih]
    split
    next hremoves => rw [Event.marksSince_concat_of_removes hremoves, Phase.kept_nil]
    next hremoves =>
      rw [Event.marksSince_concat_of_not_removes hremoves]
      cases event.mark? schedule name with
      | none => simp
      | some phase => simp [Phase.kept_concat]

/-! ## A watch cycle -/

namespace Tracker

variable {setup : Setup} {view : View} {schedule : String} {t : Tracker} {stage : TrackerStage}
  {did past : List Occurrence} {tracked : Tracked}

lemma tracked?_take (setup : Setup) (schedule : String) (token : Token) (feed : Feed)
    (tracked : Tracked) (event : Event) :
    ({ schedule, token, stage := (take setup schedule feed tracked event).1 } : Tracker).tracked? =
      some (react schedule tracked event).tracked := by
  simp only [take]
  split
  · split <;> rfl
  · rfl

lemma tracked?_deliver (view : View) (schedule : String) (token : Token) (feed : Feed)
    (tracked : Tracked) (report : Report) (place : Nat) :
    ({ schedule, token, stage := (deliver view feed tracked report place).1 } : Tracker).tracked? =
      some tracked := by
  simp only [deliver]
  split
  · rfl
  · split <;> rfl

/-- A tracker gets to track something by opening its watch and by the events that it takes. -/
lemma Step.tracked_cases (h : Step view t.schedule t.stage stage did)
    (htracked : ({ t with stage } : Tracker).tracked? = some tracked) :
    (did = [.opened .backup] ∧ tracked = ∅) ∨
    (.opened .backup ∉ did ∧ ∃ old, t.tracked? = some old ∧
      tracked = trackedAfter t.schedule old (did.filterMap event?)) := by
  obtain ⟨schedule, token, now⟩ := t
  cases h with
  | opened => exact .inl ⟨rfl, (Option.some.inj htracked).symm⟩
  | @take feed old event queue =>
    refine .inr ⟨by simp [Tracker.take], old, rfl, ?_⟩
    rw [tracked?_take] at htracked
    rw [filterMap_event?_take]
    exact (Option.some.inj htracked).symm
  | @deliver feed old report place =>
    refine .inr ⟨?_, old, rfl, ?_⟩
    · simp only [Tracker.deliver]
      split <;> simp
    · rw [tracked?_deliver] at htracked
      rw [filterMap_event?_deliver]
      exact (Option.some.inj htracked).symm
  | begin => cases htracked
  | cancel => cases htracked
  | callList => cases htracked
  | listFails => cases htracked
  | listed => cases htracked
  | callWatch => cases htracked
  | watchFails => cases htracked
  | sawEnd => cases htracked

/-- A tracker with a watch tracks what the events since the opening say. -/
theorem History.tracked_eq (h : History setup t past) (htracked : t.tracked? = some tracked) :
    ∃ before since, past = before ++ .opened .backup :: since ∧ .opened .backup ∉ since ∧
      tracked = trackedAfter t.schedule ∅ (since.filterMap event?) := by
  induction h generalizing tracked with
  | @spawned t hstage => simp [tracked?, hstage] at htracked
  | @fed t past f h ih =>
    rw [tracked?_updateFeed] at htracked
    rw [schedule_updateFeed]
    exact ih htracked
  | @stepped t past did view stage hview lines h hstep ih =>
    rcases hstep.tracked_cases htracked with ⟨rfl, rfl⟩ | ⟨hopened, old, hold, rfl⟩
    · exact ⟨past, lines.map logged, rfl, by simp, by rw [filterMap_event?_logged]; rfl⟩
    · obtain ⟨before, since, rfl, hsince, rfl⟩ := ih hold
      refine ⟨before, since ++ (did ++ lines.map logged), by simp, by simp [hsince, hopened], ?_⟩
      simp only [trackedAfter, List.filterMap_append, filterMap_event?_logged, List.append_nil,
        List.foldl_append]

end Tracker

namespace System

variable {setup : Setup} {s : System}

/-- A tracker with a watch tracks what the events say that it took since that watch was opened. A
backup is tracked exactly if one of them marked it and none removed it later, under the last phase
it was marked with since it was removed last that does not end it or, if there is none, under the
first one. Events of which the name or the phase cannot be read make no difference. -/
theorem tracked_since_opening (h : Reachable setup s) {index : Nat} {t : Tracker}
    (ht : s.roster.trackers[index]? = some t) {tracked : Tracked}
    (htracked : t.tracked? = some tracked) :
    ∃ before since, s.trace.ofTask (.tracker index) = before ++ .opened .backup :: since ∧
      .opened .backup ∉ since ∧
      (since.filterMap event? = [] → tracked = ∅) ∧
      (∀ name, tracked.contains name = true ↔
        ∃ earlier event later phase, since.filterMap event? = earlier ++ event :: later ∧
          event.Marks t.schedule name phase ∧
          ∀ other ∈ later, ¬ other.Removes t.schedule name) ∧
      (∀ name, tracked.get? name =
        Phase.kept (Event.marksSince t.schedule name (since.filterMap event?))) ∧
      ∀ event : Event, (event.object.name = none ∨
          event.Concerns t.schedule ∧ event.object.content.IsMistyped ["status", "phase"]) →
        (Tracker.react t.schedule tracked event).tracked = tracked := by
  obtain ⟨before, since, hpast, hopened, rfl⟩ := (h.history ht).tracked_eq htracked
  refine ⟨before, since, hpast, hopened, ?_, fun name => ?_, fun name => ?_,
    fun event => Tracker.tracked_react_of_unreadable⟩
  · intro hevents
    rw [hevents]
    rfl
  · rw [← Event.marksSince_ne_nil_iff, Table.contains_eq_isSome, Tracker.get?_trackedAfter,
      Option.isSome_iff_ne_none, ne_eq, Phase.kept_eq_none_iff]
  · exact Tracker.get?_trackedAfter t.schedule name _

end System

namespace Sample

/-- A backup runs and completes without times, another one completes without times and then shows
no phase that can be read, and a third one is deleted. -/
def mixedNews : List Move :=
  opening ++ news .added (running "b1") :: steps 1 ++ news .modified (timeless "b1") :: steps 1 ++
    news .added (timeless "b2") :: steps 1 ++
    news .modified (backup "b2" [("phase", .int 3)]) :: steps 1 ++
    news .added (running "b3") :: steps 1 ++ news .deleted (running "b3") :: steps 1

end Sample

/-- The first backup is kept as running, the second one as completed, and the third one not at
all. -/
theorem System.tracked_since_opening_mixedNews :
    ∃ (t : Tracker) (tracked : Tracked) (since : List Occurrence),
      Reachable Sample.setup (Sample.systemAfter Sample.mixedNews) ∧
      (Sample.systemAfter Sample.mixedNews).roster.trackers[0]? = some t ∧
      t.tracked? = some tracked ∧
      tracked.entries = [("b1", .running), ("b2", .completed)] ∧
      Phase.kept (Event.marksSince "nightly" "b1" (since.filterMap event?)) = some .running ∧
      Phase.kept (Event.marksSince "nightly" "b2" (since.filterMap event?)) = some .completed ∧
      Phase.kept (Event.marksSince "nightly" "b3" (since.filterMap event?)) = none := by
  have h : Reachable Sample.setup (Sample.systemAfter Sample.mixedNews) := ⟨Sample.mixedNews, rfl⟩
  obtain ⟨t, ht⟩ : ∃ t, (Sample.systemAfter Sample.mixedNews).roster.trackers[0]? = some t :=
    ⟨_, rfl⟩
  obtain ⟨tracked, htracked, hentries⟩ : ∃ tracked : Tracked, t.tracked? = some tracked ∧
      tracked.entries = [("b1", .running), ("b2", .completed)] := by
    obtain rfl := Option.some.inj (ht.symm.trans rfl)
    exact ⟨_, rfl, rfl⟩
  have hschedule : t.schedule = "nightly" := by
    obtain rfl := Option.some.inj (ht.symm.trans rfl)
    rfl
  obtain ⟨before, since, -, -, -, -, hkept, -⟩ := System.tracked_since_opening h ht htracked
  rw [hschedule] at hkept
  refine ⟨t, tracked, since, h, ht, htracked, hentries, ?_, ?_, ?_⟩
  · rw [← hkept, Table.get?, hentries]
    rfl
  · rw [← hkept, Table.get?, hentries]
    rfl
  · rw [← hkept, Table.get?, hentries]
    rfl

end BackupMonitor
