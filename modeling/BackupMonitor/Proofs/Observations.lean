import BackupMonitor.Proofs.Contribution
import BackupMonitor.Proofs.Step

/-!
# What a task did, sorted

The events that a task took, the listings it got and the reports it made are read off what it did
by a projection for each. `Tracker.Step.sort` sorts the steps of a tracker accordingly: a step
takes one event, or hands out one report, or is quiet.
-/

namespace BackupMonitor

namespace Occurrence

/-- The event that was taken. -/
def event? : Occurrence → Option Event
  | took event => some event
  | _ => none

/-- The listing of schedules that came in. -/
def schedules? : Occurrence → Option Listing
  | listed .scheduledBackup listing => some listing
  | _ => none

/-- The report that was handed to a sink. -/
def delivery? : Occurrence → Option Delivery
  | delivered delivery => some delivery
  | _ => none

/-- Whether this belongs to a report: the report is counted, or handed to a sink. -/
def isReport : Occurrence → Bool
  | measured (.report _) => true
  | delivered _ => true
  | _ => false

/-- Occurrences of a sort that a projection passes over leave nothing behind. -/
lemma filterMap_map_eq_nil {α β : Type} {f : Occurrence → Option β} {g : α → Occurrence}
    (h : ∀ a, f (g a) = none) (xs : List α) : (xs.map g).filterMap f = [] := by
  rw [List.filterMap_map, List.filterMap_eq_nil_iff]
  exact fun a _ => h a

@[simp] lemma filterMap_event?_logged (lines : List Log.Line) :
    (lines.map logged).filterMap event? = [] := filterMap_map_eq_nil (fun _ => rfl) lines

@[simp] lemma filterMap_event?_measured (measurements : List Measurement) :
    (measurements.map measured).filterMap event? = [] :=
  filterMap_map_eq_nil (fun _ => rfl) measurements

@[simp] lemma filterMap_delivery?_logged (lines : List Log.Line) :
    (lines.map logged).filterMap delivery? = [] := filterMap_map_eq_nil (fun _ => rfl) lines

@[simp] lemma filterMap_delivery?_measured (measurements : List Measurement) :
    (measurements.map measured).filterMap delivery? = [] :=
  filterMap_map_eq_nil (fun _ => rfl) measurements

/-- What belongs to no report hands none out. -/
lemma filterMap_delivery?_of_isReport {did : List Occurrence}
    (h : ∀ what ∈ did, what.isReport = false) : did.filterMap delivery? = [] := by
  rw [List.filterMap_eq_nil_iff]
  intro what hwhat
  have hreport := h what hwhat
  cases what <;> first | rfl | cases hreport

end Occurrence

open Occurrence

/-! ## Stages without a memory -/

/-- A tracker that has taken no event since its watch was opened tracks nothing and has nothing to
hand out. -/
def TrackerStage.IsBlank : TrackerStage → Prop
  | .following _ tracked => tracked = ∅
  | .delivering .. => False
  | _ => True

namespace Tracker

variable {setup : Setup} {view : View} {schedule : String} {stage stage' : TrackerStage}
  {did : List Occurrence}

/-! ## What comes in over a watch -/

@[simp] lemma schedule_updateFeed (t : Tracker) (f : Feed → Feed) :
    (t.updateFeed f).schedule = t.schedule := by
  unfold updateFeed
  split <;> rfl

/-- What is said of a stage apart from its feed stays true when something comes in. -/
lemma stage_updateFeed {P : TrackerStage → Prop} {t : Tracker} (f : Feed → Feed)
    (hfollowing : ∀ feed tracked, P (.following feed tracked) → P (.following (f feed) tracked))
    (hdelivering : ∀ feed tracked report place, P (.delivering feed tracked report place) →
      P (.delivering (f feed) tracked report place))
    (h : P t.stage) : P (t.updateFeed f).stage := by
  unfold updateFeed
  split
  next feed tracked hstage =>
    rw [hstage] at h
    exact hfollowing feed tracked h
  next feed tracked report place hstage =>
    rw [hstage] at h
    exact hdelivering feed tracked report place h
  next => exact h

/-! ## Taking an event and handing out a report -/

lemma filterMap_event?_take (feed : Feed) (tracked : Tracked) (event : Event) :
    (take setup schedule feed tracked event).2.filterMap event? = [event] := by
  simp only [take, List.filterMap_append, List.filterMap_cons, filterMap_event?_logged,
    filterMap_event?_measured, event?]
  rfl

lemma filterMap_delivery?_take (feed : Feed) (tracked : Tracked) (event : Event) :
    (take setup schedule feed tracked event).2.filterMap delivery? = [] := by
  simp only [take, List.filterMap_append, List.filterMap_cons, filterMap_delivery?_logged,
    filterMap_delivery?_measured, delivery?]
  rfl

lemma filterMap_event?_deliver (feed : Feed) (tracked : Tracked) (report : Report) (next : Nat) :
    (deliver view feed tracked report next).2.filterMap event? = [] := by
  simp only [deliver]
  split
  · rfl
  · simp only [List.filterMap_append, List.filterMap_cons, filterMap_event?_logged,
      filterMap_event?_measured, event?]
    rfl

/-! ## The steps, sorted -/

/-- A step that takes no event and has no part in a report. -/
structure IsQuiet (stage stage' : TrackerStage) (did : List Occurrence) : Prop where
  /-- It takes no event. -/
  event : did.filterMap event? = []
  /-- It has no part in a report. -/
  report : ∀ what ∈ did, what.isReport = false
  /-- No report was being handed out. -/
  before : ∀ feed tracked report place, stage ≠ .delivering feed tracked report place
  /-- Nothing is tracked and no report is handed out afterwards. -/
  after : stage'.IsBlank

/-- A step of a tracker takes an event, or hands a report to a sink, or is quiet. -/
theorem Step.sort (h : Step view schedule stage stage' did) :
    (∃ feed tracked event queue, feed.queue = event :: queue ∧ stage = .following feed tracked ∧
      stage' = (Tracker.take view.setup schedule { feed with queue } tracked event).1 ∧
      did = (Tracker.take view.setup schedule { feed with queue } tracked event).2) ∨
    (∃ feed tracked report place, stage = .delivering feed tracked report place ∧
      stage' = (Tracker.deliver view feed tracked report place).1 ∧
      did = (Tracker.deliver view feed tracked report place).2) ∨
    IsQuiet stage stage' did := by
  cases h with
  | take hcancel hqueue => exact .inl ⟨_, _, _, _, hqueue, rfl, rfl, rfl⟩
  | deliver hheld => exact .inr (.inl ⟨_, _, _, _, rfl, rfl, rfl⟩)
  | cancel hcancel hstage =>
    -- a tracker that hands out a report does not look at its token
    refine .inr (.inr ⟨rfl, by simp [Tracker.finish, isReport], ?_, trivial⟩)
    rintro feed tracked report place rfl
    cases hstage
  | opened => exact .inr (.inr ⟨rfl, by simp [isReport], by simp, rfl⟩)
  | listFails => exact .inr (.inr ⟨rfl, by simp [Tracker.finish, isReport], by simp, trivial⟩)
  | watchFails => exact .inr (.inr ⟨rfl, by simp [Tracker.finish, isReport], by simp, trivial⟩)
  | begin => exact .inr (.inr ⟨rfl, by simp [isReport], by simp, trivial⟩)
  | callList => exact .inr (.inr ⟨rfl, by simp [isReport], by simp, trivial⟩)
  | listed => exact .inr (.inr ⟨rfl, by simp [isReport], by simp, trivial⟩)
  | callWatch => exact .inr (.inr ⟨rfl, by simp [isReport], by simp, trivial⟩)
  | sawEnd => exact .inr (.inr ⟨rfl, by simp [isReport], by simp, trivial⟩)

end Tracker

end BackupMonitor
