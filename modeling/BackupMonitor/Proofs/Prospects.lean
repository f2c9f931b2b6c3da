import BackupMonitor.Proofs.SinkFailures

/-!
# What lies ahead of a tracker

Until new input comes in, a tracker goes its own way: what it does next is up to its stage, to the
gates of the backups and the sinks, and to whether it is cancelled (`Tracker.advance`). Where it
watches from, and what the sinks answer, makes no difference to what shows of it outside, which is
its reports and what it measures (`Occurrence.effect?`).

* `Meets`: two such ways lead to the same stage, with the same effects on the whole.
* `TrackerStage.IsCalm`: the tracker has nothing to report, so that it makes no difference whether
  it takes its next step before it is cancelled (`Tracker.Step.calm`).
-/

namespace BackupMonitor

open Occurrence

/-! ## Ways that lead to the same end -/

section Meets

variable {α β : Type} {next : α → Option (α × List β)} {a b c last : α} {did more past : List β}

/-- The way from one state to another, when `next` says where each state leads and what is done on
the way. -/
inductive Goes (next : α → Option (α × List β)) : α → List β → α → Prop where
  /-- It stays where it is. -/
  | stay (a : α) : Goes next a [] a
  /-- It goes on. -/
  | on {a b c : α} {did more : List β} (hstep : next a = some (b, did))
      (hrest : Goes next b more c) : Goes next a (did ++ more) c

namespace Goes

lemma of_step (h : next a = some (b, did)) : Goes next a did b := by
  have hway := Goes.on h (.stay b)
  rwa [List.append_nil] at hway

lemma trans (h : Goes next a did b) (h' : Goes next b more c) : Goes next a (did ++ more) c := by
  induction h with
  | stay => exact h'
  | on hstep _ ih =>
    rw [List.append_assoc]
    exact .on hstep (ih h')

/-- From a state that leads nowhere there is no way. -/
lemma eq_of_none (h : Goes next a did b) (hnone : next a = none) : b = a ∧ did = [] := by
  cases h with
  | stay => exact ⟨rfl, rfl⟩
  | on hstep =>
    rw [hnone] at hstep
    cases hstep

end Goes

/-- Two states, each with what was done before, lead to the same state, with the same done by
then. -/
def Meets (next : α → Option (α × List β)) (x y : α × List β) : Prop :=
  ∃ last more more', Goes next x.1 more last ∧ Goes next y.1 more' last ∧ x.2 ++ more = y.2 ++ more'

namespace Meets

variable {x y : α × List β}

lemma refl (x : α × List β) : Meets next x x := ⟨x.1, [], [], .stay _, .stay _, rfl⟩

lemma symm (h : Meets next x y) : Meets next y x := by
  obtain ⟨last, more, more', hx, hy, heq⟩ := h
  exact ⟨last, more', more, hy, hx, heq.symm⟩

/-- There is only one way on, so a step of one of them does not lead astray. -/
lemma step (h : Meets next (a, past) y) (hstep : next a = some (b, did)) :
    Meets next (b, past ++ did) y := by
  obtain ⟨last, more, more', hx, hy, heq⟩ := h
  cases hx with
  | stay =>
    -- they had met already, and the other one can follow
    refine ⟨b, [], more' ++ did, .stay b, hy.trans (.of_step hstep), ?_⟩
    rw [← List.append_assoc, ← heq, List.append_nil, List.append_nil]
  | on hfirst hrest =>
    obtain ⟨rfl, rfl⟩ := Prod.mk.inj (Option.some.inj (hstep.symm.trans hfirst))
    exact ⟨last, _, more', hrest, hy, by rw [List.append_assoc, heq]⟩

/-- What is met after a step is met. -/
lemma of_step (h : Meets next (b, past ++ did) y) (hstep : next a = some (b, did)) :
    Meets next (a, past) y := by
  obtain ⟨last, more, more', hx, hy, heq⟩ := h
  exact ⟨last, did ++ more, more', .on hstep hx, hy, by rw [← List.append_assoc, heq]⟩

/-- Where nothing leads on, they have met. -/
lemma eq_of_none (h : Meets next x y) (hx : next x.1 = none) (hy : next y.1 = none) : x = y := by
  obtain ⟨last, more, more', hgoes, hgoes', heq⟩ := h
  obtain ⟨rfl, rfl⟩ := hgoes.eq_of_none hx
  obtain ⟨hsame, rfl⟩ := hgoes'.eq_of_none hy
  rw [List.append_nil, List.append_nil] at heq
  exact Prod.ext hsame heq

end Meets

end Meets

/-! ## What shows of a tracker -/

/-- What shows outside: a report that is handed out, without the answer to it, and what is measured,
refusals apart. -/
def Occurrence.effect? : Occurrence → Option Occurrence
  | delivered d => some (.delivered d.unanswered)
  | measured (.sinkFailure _) => none
  | measured m => some (.measured m)
  | _ => none

@[simp] lemma Occurrence.filterMap_effect?_logged (lines : List Log.Line) :
    (lines.map logged).filterMap effect? = [] := filterMap_map_eq_nil (fun _ => rfl) lines

/-- A stage without where the tracker watches from, and without the error with which it ended. -/
def TrackerStage.plain : TrackerStage → TrackerStage
  | .listed _ => .listed anyVersion
  | .opening _ => .opening anyVersion
  | .finished _ => .finished none
  | stage => stage

/-- What the steps of a tracker depend on, its own stage and its token apart. -/
structure Climate where
  /-- What stays the same over the run. -/
  setup : Setup
  /-- How lists of backups are answered. -/
  lists : Gate
  /-- How watches of backups are answered. -/
  watches : Gate
  /-- Whether calls to sinks wait. -/
  sinksHeld : Bool

/-- What a view says about the climate. -/
def View.climate (view : View) : Climate where
  setup := view.setup
  lists := view.server.backups.lists
  watches := view.server.backups.watches
  sinksHeld := view.sinksHeld

/-- Changes how calls of one way to ask are answered. -/
def Climate.updateGate (c : Climate) (verb : Verb) (f : Gate → Gate) : Climate :=
  match verb with
  | .list => { c with lists := f c.lists }
  | .watch => { c with watches := f c.watches }

/-- What a tracker sees in a climate before anything was listed or done. -/
def Climate.view (c : Climate) (cancelled : Bool) : View where
  setup := c.setup
  server := { backups := { lists := c.lists, watches := c.watches } }
  sinksHeld := c.sinksHeld
  cancelled := cancelled
  trace := []

namespace View

/-- In the climate of a view calls are answered alike. -/
lemma answer_climate (view : View) (cancelled : Bool) {α : Type} (verb : Verb) (success : α) :
    (view.climate.view cancelled).answer verb .backup success =
      view.answer verb .backup success := by
  cases verb <;> rfl

/-- What a call brings if it succeeds does not decide whether it does. -/
lemma answer_eq_map (view : View) {α : Type} (verb : Verb) (kind : ResourceKind) (success : α) :
    view.answer verb kind success =
      (view.answer verb kind ()).map fun answer => answer.map fun _ => success := by
  simp only [answer]
  split
  · rfl
  · split <;> rfl

end View

namespace Tracker

/-- What shows of a step. -/
def outline (change : TrackerStage × List Occurrence) : TrackerStage × List Occurrence :=
  (change.1.plain, change.2.filterMap effect?)

/-- The next step of a tracker of a schedule in a climate, as far as it shows. -/
def advance (c : Climate) (cancelled : Bool) (schedule : String) (stage : TrackerStage) :
    Option (TrackerStage × List Occurrence) :=
  (step (c.view cancelled) { schedule, token := Tokens.root, stage }).map outline

variable {view : View} {schedule : String} {stage stage' : TrackerStage} {did : List Occurrence}

/-- What shows of a report that is handed out is the report. -/
lemma filterMap_effect?_answer (d : Delivery) (before after : List Log.Line) :
    (before.map logged ++ delivered d :: after.map logged ++ d.measurements.map measured).filterMap
      effect? = [delivered d.unanswered] := by
  have hrefusal : (d.measurements.map measured).filterMap effect? = [] := by
    unfold Delivery.measurements
    cases d.error with
    | none => rfl
    | some e => rfl
  rw [List.filterMap_append, List.filterMap_append, List.filterMap_cons, hrefusal,
    filterMap_effect?_logged, filterMap_effect?_logged]
  rfl

/-- How a tracker hands out a report does not depend on the past. -/
lemma outline_deliver (view : View) (feed : Feed) (tracked : Tracked) (report : Report)
    (place : Nat) :
    outline (deliver (view.climate.view view.cancelled) feed tracked report place) =
      outline (deliver view feed tracked report place) := by
  have hsinks : (view.climate.view view.cancelled).setup.sinks[place]? =
    view.setup.sinks[place]? := rfl
  simp only [deliver, hsinks]
  cases hsink : view.setup.sinks[place]? with
  | none => rfl
  | some sink =>
    refine Prod.ext rfl ?_
    show List.filterMap effect? _ = List.filterMap effect? _
    rw [filterMap_effect?_answer, filterMap_effect?_answer]
    rfl

/-- What a tracker that is not cancelled does next does not depend on the past either. -/
lemma outline_proceed (view : View) (schedule : String) (stage : TrackerStage) :
    (proceed (view.climate.view view.cancelled) schedule stage.plain).map outline =
      (proceed view schedule stage).map outline := by
  cases stage with
  | listing =>
    -- the cursor may be another one
    simp only [proceed, TrackerStage.plain, View.answer_climate]
    rw [View.answer_eq_map, View.answer_eq_map view _ _ (view.listing .backup)]
    rcases view.answer .list .backup () with _ | _ | _ <;> rfl
  | opening cursor => simp only [proceed, TrackerStage.plain, View.answer_climate]
  | following feed tracked => rfl
  | _ => rfl

/-- What a tracker does next is what the climate makes of its stage. -/
theorem advance_plain (view : View) (t : Tracker) :
    advance view.climate view.cancelled t.schedule t.stage.plain = (t.step view).map outline := by
  obtain ⟨schedule, token, stage⟩ := t
  have hproceed := outline_proceed view schedule stage
  unfold advance
  cases stage with
  | spawned => rfl
  | delivering feed tracked report place =>
    show Option.map outline (if view.sinksHeld then none else some _) =
      Option.map outline (if view.sinksHeld then none else some _)
    split
    · rfl
    · exact congrArg some (outline_deliver view feed tracked report place)
  | finished error => rfl
  | _ =>
    show Option.map outline (if view.cancelled then some (finish none) else _) =
      Option.map outline (if view.cancelled then some (finish none) else _)
    split
    · rfl
    · exact hproceed

/-- A step of a tracker, as far as it shows. -/
lemma advance_of_step {t : Tracker} (h : t.step view = some (stage', did)) :
    advance view.climate view.cancelled t.schedule t.stage.plain =
      some (stage'.plain, did.filterMap effect?) := by
  rw [advance_plain, h]
  rfl

/-- A tracker that cannot take a step does not show any. -/
lemma advance_eq_none_iff {t : Tracker} :
    advance view.climate view.cancelled t.schedule t.stage.plain = none ↔ t.step view = none := by
  rw [advance_plain, Option.map_eq_none_iff]

/-- Whether a tracker has finished shows. -/
lemma isFinished_eq_of_plain_eq {t t' : Tracker} (h : t.stage.plain = t'.stage.plain) :
    t.isFinished = t'.isFinished := by
  have hplain (t : Tracker) : t.isFinished = isFinished { t with stage := t.stage.plain } := by
    obtain ⟨schedule, token, stage⟩ := t
    cases stage <;> rfl
  rw [hplain t, hplain t', h]
  rfl

/-- A cancelled tracker that looks at its token stops. -/
lemma advance_of_isCancellable (c : Climate) (schedule : String)
    (h : stage.isCancellable = true) :
    advance c true schedule stage.plain = some (.finished none, [measured .trackerStopped]) := by
  cases stage with
  | spawned => cases h
  | delivering feed tracked report place => cases h
  | finished error => cases h
  | _ => rfl

end Tracker

/-! ## Calm trackers -/

/-- Whether the tracker has nothing to report before new input comes in: it has no event to take and
its watch has not ended, and if it is handing out a report the sinks are held. -/
def TrackerStage.IsCalm (sinksHeld : Bool) : TrackerStage → Prop
  | .following feed _ => feed.queue = [] ∧ feed.closed = false
  | .delivering .. => sinksHeld = true
  | _ => True

namespace Tracker

variable {view : View} {schedule : String} {stage stage' : TrackerStage} {did : List Occurrence}

/-- A tracker that has to wait is calm. -/
lemma isCalm_of_step_eq_none {t : Tracker} (h : t.step view = none)
    (hlive : view.cancelled = false) : t.stage.IsCalm view.sinksHeld := by
  obtain ⟨schedule, token, stage⟩ := t
  cases stage with
  | following feed tracked =>
    simp only [step, proceed, hlive] at h
    cases hqueue : feed.queue with
    | nil => exact ⟨hqueue, by simpa [hqueue] using h⟩
    | cons event queue => simp [hqueue] at h
  | delivering feed tracked report place =>
    show view.sinksHeld = true
    by_contra hfree
    simp [step, hfree] at h
  | _ => trivial

/-- A tracker that is about to be cancelled and is calm may as well take its next step first: it
stays calm, and what it comes to once it is cancelled is the same. -/
theorem Step.calm (h : Step view schedule stage stage' did) (hlive : view.cancelled = false)
    (hcalm : stage.IsCalm view.sinksHeld) :
    stage'.IsCalm view.sinksHeld ∧ ∀ past other,
      Meets (advance view.climate true schedule) (stage.plain, past) other →
      Meets (advance view.climate true schedule)
        (stage'.plain, past ++ did.filterMap effect?) other := by
  -- on the way to its watch nothing shows, and it would stop wherever it is
  have hway (hstage : stage.isCancellable = true) (hstage' : stage'.isCancellable = true)
      (hdid : did.filterMap effect? = []) (past : List Occurrence) (other)
      (hmeets : Meets (advance view.climate true schedule) (stage.plain, past) other) :
      Meets (advance view.climate true schedule)
        (stage'.plain, past ++ did.filterMap effect?) other := by
    rw [hdid, List.append_nil]
    exact (hmeets.step (advance_of_isCancellable _ _ hstage)).of_step
      (advance_of_isCancellable _ _ hstage')
  -- if a call fails it stops by itself
  have hfails (hstage : stage.isCancellable = true) {e : TaskError}
      (hstage' : stage' = .finished (some e))
      (hdid : did.filterMap effect? = [measured .trackerStopped]) (past : List Occurrence) (other)
      (hmeets : Meets (advance view.climate true schedule) (stage.plain, past) other) :
      Meets (advance view.climate true schedule)
        (stage'.plain, past ++ did.filterMap effect?) other := by
    rw [hdid, hstage']
    exact hmeets.step (advance_of_isCancellable _ _ hstage)
  cases h with
  | begin => exact ⟨trivial, fun past other hmeets => hmeets.step rfl⟩
  | callList => exact ⟨trivial, hway rfl rfl rfl⟩
  | listFails => exact ⟨trivial, hfails rfl rfl rfl⟩
  | listed => exact ⟨trivial, hway rfl rfl rfl⟩
  | callWatch => exact ⟨trivial, hway rfl rfl rfl⟩
  | watchFails => exact ⟨trivial, hfails rfl rfl rfl⟩
  | opened => exact ⟨⟨rfl, rfl⟩, hway rfl rfl rfl⟩
  | cancel hcancel =>
    rw [hlive] at hcancel
    cases hcancel
  | take _ hqueue =>
    rw [hcalm.1] at hqueue
    cases hqueue
  | sawEnd _ _ hclosed =>
    rw [hcalm.2] at hclosed
    cases hclosed
  | deliver hheld =>
    have hheld' : view.sinksHeld = true := hcalm
    rw [hheld'] at hheld
    cases hheld

end Tracker

end BackupMonitor
