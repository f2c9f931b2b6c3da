import BackupMonitor.Proofs.Upkeep
import BackupMonitor.Proofs.TrackerMove

/-!
# Cancelled trackers

A tracker whose token is cancelled winds down, whatever waits for it: if it is handing out a report
it goes on to the last sink, and then it finishes well. `Tracker.WindsDown` relates two stages of
such a tracker. It holds of every step that the tracker takes (`Tracker.Step.windsDown`), and stages
that it relates can be put together, so it holds of whole runs (`System.windsDown_of_play`).

`TrackerStage.stepsLeft` is the exact number of steps that are left. It goes down by one with each
of them and with nothing else, and as long as it is not zero only held sinks keep the tracker from
taking the next one (`System.isSome_step_of_cancelled`).
-/

namespace BackupMonitor

open Occurrence

/-- Whether a cancelled tracker may still do this: begin to run, hand out a report, with what is
logged and counted about it, and finish well. -/
def Occurrence.isWindDown : Occurrence → Bool
  | logged _ => true
  | delivered _ => true
  | measured .trackerStarted => true
  | measured .trackerStopped => true
  | measured (.sinkFailure _) => true
  | finished none => true
  | _ => false

namespace TrackerStage

/-- How many steps a cancelled tracker has yet to take. -/
def stepsLeft (setup : Setup) : TrackerStage → Nat
  | .spawned => 2
  | .delivering _ _ _ place => setup.sinks.length - place + 1
  | .finished _ => 0
  | _ => 1

/-- Whether the tracker is handing out a report. -/
def isDelivering : TrackerStage → Bool
  | .delivering .. => true
  | _ => false

lemma stepsLeft_eq_zero_iff {setup : Setup} {stage : TrackerStage} :
    stage.stepsLeft setup = 0 ↔ ∃ error, stage = .finished error := by
  cases stage with
  | finished error => exact ⟨fun _ => ⟨error, rfl⟩, fun _ => rfl⟩
  | _ => simp [stepsLeft]

/-- A stage that looks at the token first is left in one step. -/
lemma stepsLeft_of_isCancellable {setup : Setup} {stage : TrackerStage}
    (h : stage.isCancellable = true) : stage.stepsLeft setup = 1 := by
  cases stage with
  | spawned => cases h
  | delivering => cases h
  | finished => cases h
  | _ => rfl

end TrackerStage

namespace Tracker

/-- How a cancelled tracker comes from one stage to another, by doing `did` in `count` steps. -/
structure WindsDown (setup : Setup) (stage stage' : TrackerStage) (did : List Occurrence)
    (count : Nat) : Prop where
  /-- It does nothing that would be new. -/
  isWindDown : ∀ what ∈ did, what.isWindDown = true
  /-- Every sink gets what is due to it, and no more. -/
  handed : ∀ place < setup.sinks.length,
    Delivery.reportsAt place (did.filterMap delivery?) ++ stage'.dueAt place = stage.dueAt place
  /-- If it finishes, it finishes well. -/
  well : ∀ error, stage' = .finished (some error) → stage = .finished (some error)
  /-- Each step is one of those that were left. -/
  count : count + stage'.stepsLeft setup = stage.stepsLeft setup

variable {setup : Setup} {view : View} {schedule : String} {stage stage' stage'' : TrackerStage}
  {did more : List Occurrence} {count count' : Nat}

namespace WindsDown

lemma refl (setup : Setup) (stage : TrackerStage) : WindsDown setup stage stage [] 0 :=
  ⟨by simp, fun _ _ => rfl, fun _ h => h, by simp⟩

lemma trans (h : WindsDown setup stage stage' did count)
    (h' : WindsDown setup stage' stage'' more count') :
    WindsDown setup stage stage'' (did ++ more) (count + count') := by
  constructor
  · intro what hwhat
    rcases List.mem_append.mp hwhat with hwhat | hwhat
    · exact h.isWindDown what hwhat
    · exact h'.isWindDown what hwhat
  · intro place hplace
    rw [List.filterMap_append, Delivery.reportsAt_append, List.append_assoc, h'.handed place hplace,
      h.handed place hplace]
  · exact fun error herror => h.well error (h'.well error herror)
  · have := h.count
    have := h'.count
    omega

/-- Log lines may follow. -/
lemma append_logged (h : WindsDown setup stage stage' did count) (lines : List Log.Line) :
    WindsDown setup stage stage' (did ++ lines.map logged) count := by
  have hlines : WindsDown setup stage' stage' (lines.map logged) 0 := by
    refine ⟨fun what hwhat => ?_, fun place _ => ?_, fun _ h => h, by simp⟩
    · obtain ⟨line, -, rfl⟩ := List.mem_map.mp hwhat
      rfl
    · rw [filterMap_delivery?_logged]
      rfl
  exact h.trans hlines

/-- Something may come in over the watch. -/
lemma of_updateFeed (setup : Setup) (t : Tracker) (f : Feed → Feed) :
    WindsDown setup t.stage (t.updateFeed f).stage [] 0 := by
  obtain ⟨schedule, token, stage⟩ := t
  cases stage with
  | following feed tracked => exact ⟨by simp, fun _ _ => rfl, by simp [updateFeed], Nat.zero_add _⟩
  | delivering feed tracked report place =>
    exact ⟨by simp, fun _ _ => rfl, by simp [updateFeed], Nat.zero_add _⟩
  | _ => exact .refl setup _

end WindsDown

/-! ## What one step of a cancelled tracker does -/

/-- Handing a report to a sink is nothing new. -/
lemma isWindDown_deliver (feed : Feed) (tracked : Tracked) (report : Report) (place : Nat) :
    ∀ what ∈ (deliver view feed tracked report place).2, what.isWindDown = true := by
  intro what hwhat
  simp only [deliver] at hwhat
  split at hwhat
  · cases hwhat
  · simp only [List.mem_append, List.mem_cons, List.mem_map] at hwhat
    rcases hwhat with (⟨line, -, rfl⟩ | rfl | ⟨line, -, rfl⟩) | ⟨measurement, hmem, rfl⟩
    · rfl
    · rfl
    · rfl
    · -- a sink that refuses is counted, and nothing else is
      unfold Delivery.measurements at hmem
      split at hmem
      · cases hmem
      · obtain rfl := List.mem_singleton.mp hmem
        rfl

lemma stepsLeft_deliver (feed : Feed) (tracked : Tracked) (report : Report) {place : Nat}
    (hplace : place < view.setup.sinks.length) :
    (deliver view feed tracked report place).1.stepsLeft view.setup =
      view.setup.sinks.length - place := by
  simp only [deliver, List.getElem?_eq_getElem hplace]
  split
  next hnext =>
    show view.setup.sinks.length - (place + 1) + 1 = _
    omega
  next hlast =>
    show 1 = _
    omega

/-- A step of a cancelled tracker hands a report to a sink, or is the last or the first one. -/
theorem Step.windsDown (h : Step view schedule stage stage' did) (hcancel : view.cancelled = true)
    (hnext : stage.HasNextSink view.setup) : WindsDown view.setup stage stage' did 1 := by
  have hlive (hlive : view.cancelled = false) : WindsDown view.setup stage stage' did 1 :=
    absurd (hcancel.symm.trans hlive) (by simp)
  cases h with
  | begin => exact ⟨by simp [isWindDown], fun _ _ => rfl, by simp, rfl⟩
  | cancel _ hstage =>
    refine ⟨by simp [Tracker.finish, isWindDown], fun place _ => ?_,
      by simp [Tracker.finish], ?_⟩
    · have hdue : stage.dueAt place = [] := by
        refine TrackerStage.dueAt_eq_nil ?_ place
        rintro feed tracked report place rfl
        cases hstage
      rw [hdue]
      rfl
    · rw [TrackerStage.stepsLeft_of_isCancellable hstage]
      rfl
  | @deliver feed tracked report next =>
    refine ⟨isWindDown_deliver feed tracked report next, fun place hplace => ?_, ?_, ?_⟩
    · have hdeliver : Step view schedule (.delivering feed tracked report next)
          (Tracker.deliver view feed tracked report next).1
          (Tracker.deliver view feed tracked report next).2 :=
        .deliver ‹_›
      rw [hdeliver.handed_append_due hnext hplace, filterMap_event?_deliver]
      exact List.append_nil _
    · intro error herror
      simp only [Tracker.deliver] at herror
      split at herror
      · cases herror
      · split at herror <;> cases herror
    · rw [stepsLeft_deliver feed tracked report hnext, Nat.add_comm]
      rfl
  | callList h => exact hlive h
  | listFails h => exact hlive h
  | listed h => exact hlive h
  | callWatch h => exact hlive h
  | watchFails h => exact hlive h
  | opened h => exact hlive h
  | take h => exact hlive h
  | sawEnd h => exact hlive h

end Tracker

namespace System

open Tracker (WindsDown)

variable {setup : Setup} {s next later : System} {index : Nat} {t u : Tracker}

/-! ## What a run makes of a cancelled tracker -/

/-- A tracker of the system is at its end: its token is cancelled, or it has finished. -/
def IsEnding (s : System) (t : Tracker) : Prop :=
  s.roster.tokens.isCancelled t.token = true ∨ t.isFinished = true

/-- No move takes back a cancellation. -/
lemma isCancelled_of_move {move : Move} (h : s.move setup move = some next) {token : Token}
    (hcancel : s.roster.tokens.isCancelled token = true) :
    next.roster.tokens.isCancelled token = true := by
  cases move with
  | step task => exact (Roster.isKept_isCancelled token).step hcancel h
  | input input =>
    obtain rfl : s.apply input = next := Option.some.inj h
    cases input with
    | start role => cases role <;> exact hcancel
    | _ => exact (Roster.isKept_isCancelled token).apply rfl hcancel

/-- A move finds a tracker at its end and leaves it at its end. -/
lemma windsDown_of_move {move : Move} (hreach : Reachable setup s)
    (h : s.move setup move = some next) (ht : s.roster.trackers[index]? = some t)
    (hending : s.IsEnding t) :
    ∃ u did, next.roster.trackers[index]? = some u ∧ next.IsEnding u ∧
      next.trace.ofTask (.tracker index) = s.trace.ofTask (.tracker index) ++ did ∧
      WindsDown setup t.stage u.stage did (if move.isStepOf (.tracker index) then 1 else 0) := by
  obtain ⟨u, did, hu, hdid, hmoves⟩ := moves_of_move h ht
  have htoken : u.token = t.token := congrArg Prod.snd hmoves.origin_eq
  generalize hcount : (if move.isStepOf (.tracker index) then 1 else 0) = count at hmoves ⊢
  have hcancelled (hcancel : s.roster.tokens.isCancelled t.token = true) : next.IsEnding u :=
    .inl (htoken ▸ isCancelled_of_move h hcancel)
  cases hmoves with
  | fed hf =>
    refine ⟨_, [], hu, ?_, hdid, .of_updateFeed setup t _⟩
    rcases hending with hcancel | hfinished
    · exact hcancelled hcancel
    · exact .inr (by rw [Tracker.isFinished_updateFeed, hfinished])
  | stepped hsetup hcancel lines hstep =>
    -- a tracker that has finished takes no step, so this one is cancelled
    have hunfinished := hstep.isFinished_eq_false
    have hnow : s.roster.tokens.isCancelled t.token = true := by
      rcases hending with hcancel | hfinished
      · exact hcancel
      · rw [hunfinished] at hfinished
        cases hfinished
    subst hsetup
    have hwinds := hstep.windsDown (hcancel.trans hnow) (hreach.history ht).hasNextSink
    exact ⟨_, _, hu, hcancelled hnow, hdid, hwinds.append_logged lines⟩

/-- A tracker at its end winds down, whatever happens. -/
theorem windsDown_of_play {moves : List Move} (hreach : Reachable setup s)
    (h : s.play setup moves = some later) (ht : s.roster.trackers[index]? = some t)
    (hending : s.IsEnding t) :
    ∃ u did, later.roster.trackers[index]? = some u ∧ later.IsEnding u ∧
      later.trace.ofTask (.tracker index) = s.trace.ofTask (.tracker index) ++ did ∧
      WindsDown setup t.stage u.stage did (moves.countP (·.isStepOf (.tracker index))) := by
  -- each move hands the tracker on to the next one
  induction moves generalizing s t with
  | nil =>
    obtain rfl : s = later := Option.some.inj h
    exact ⟨t, [], ht, hending, (List.append_nil _).symm, .refl setup _⟩
  | cons move moves ih =>
    simp only [play] at h
    split at h
    next mid hmid =>
      obtain ⟨v, did, hv, hvending, hdid, hfirst⟩ := windsDown_of_move hreach hmid ht hending
      have hmove : s.play setup [move] = some mid := by simp only [play, hmid]
      have hmidreach : Reachable setup mid := hreach.play hmove
      obtain ⟨u, more, hu, huending, hmore, hrest⟩ := ih hmidreach h hv hvending
      refine ⟨u, did ++ more, hu, huending, by rw [hmore, hdid, List.append_assoc], ?_⟩
      rw [List.countP_cons, Nat.add_comm]
      exact hfirst.trans hrest
    next => cases h

/-- A cancelled tracker that has not finished can take a step unless the sinks are held. -/
lemma isSome_step_of_cancelled (ht : s.roster.trackers[index]? = some t)
    (hcancel : s.roster.tokens.isCancelled t.token = true) (hrunning : t.isFinished = false) :
    (s.step setup (.tracker index)).isSome = true ∨
      (t.stage.isDelivering = true ∧ s.sinksHeld = true) := by
  have hstep (h : (t.step (s.view setup t.token)).isSome = true) :
      (s.step setup (.tracker index)).isSome = true := by
    obtain ⟨⟨stage, did⟩, h⟩ := Option.isSome_iff_exists.mp h
    simp only [step, ht, h, Option.isSome_some]
  obtain ⟨schedule, token, stage⟩ := t
  have hview : (s.view setup token).cancelled = true := hcancel
  cases stage with
  | finished error => cases hrunning
  | delivering feed tracked report place =>
    cases hheld : s.sinksHeld with
    | true => exact .inr ⟨rfl, rfl⟩
    | false =>
      have hfree : (s.view setup token).sinksHeld = false := hheld
      exact .inl (hstep (by simp [Tracker.step, hfree]))
  | spawned => exact .inl (hstep rfl)
  | _ => exact .inl (hstep (by simp [Tracker.step, hview]))

/-- Once the token of a tracker is cancelled, whatever waits for it then or comes in later, the
tracker takes no event, makes no call, counts no restart and begins no report. What is due to the
sinks of the report that it is handing out still goes to all of them. It never finishes with an
error, and it has finished once it took the steps that are left, of which it can take the next one
at any time unless the sinks are held. -/
theorem winds_down_of_cancelled (h : Reachable setup s) (ht : s.roster.trackers[index]? = some t)
    (hcancel : s.roster.tokens.isCancelled t.token = true) (hrunning : t.isFinished = false)
    {moves : List Move} (hplay : s.play setup moves = some later) :
    ∃ u since, later.roster.trackers[index]? = some u ∧
      later.trace.ofTask (.tracker index) = s.trace.ofTask (.tracker index) ++ since ∧
      (∀ what ∈ since, what.isWindDown = true) ∧
      (∀ place < setup.sinks.length, Delivery.reportsAt place (since.filterMap delivery?) ++
        u.stage.dueAt place = t.stage.dueAt place) ∧
      (∀ error, u.stage ≠ .finished (some error)) ∧
      moves.countP (·.isStepOf (.tracker index)) + u.stage.stepsLeft setup =
        t.stage.stepsLeft setup ∧
      (u.stage.stepsLeft setup = 0 ↔ u.stage = .finished none) ∧
      (u.stage ≠ .finished none → (later.step setup (.tracker index)).isSome = true ∨
        (u.stage.isDelivering = true ∧ later.sinksHeld = true)) := by
  obtain ⟨u, since, hu, hending, hsince, hwinds⟩ := windsDown_of_play h hplay ht (.inl hcancel)
  have hwell (error : TaskError) : u.stage ≠ .finished (some error) := by
    intro herror
    have hstage := hwinds.well error herror
    simp only [Tracker.isFinished, hstage] at hrunning
    cases hrunning
  have hfinished : u.stage.stepsLeft setup = 0 ↔ u.stage = .finished none := by
    rw [TrackerStage.stepsLeft_eq_zero_iff]
    constructor
    · rintro ⟨error, herror⟩
      cases error with
      | none => exact herror
      | some error => exact absurd herror (hwell error)
    · exact fun h => ⟨none, h⟩
  refine ⟨u, since, hu, hsince, hwinds.isWindDown, hwinds.handed, hwell, hwinds.count, hfinished,
    ?_⟩
  intro hnone
  have hunfinished : u.isFinished = false := by
    unfold Tracker.isFinished
    split
    next error herror => exact absurd (hfinished.mp (by rw [herror]; rfl)) hnone
    next => rfl
  rcases hending with hucancel | hufinished
  · exact isSome_step_of_cancelled hu hucancel hunfinished
  · rw [hunfinished] at hufinished
    cases hufinished

end System

namespace Sample

/-- A tracker has handed the failure of a backup to the first of two sinks. Another failure and the
end of its watch are waiting when its schedule is deleted. -/
def deregistered : List Move :=
  nightly ++ news .modified (failed "b1") :: steps 2 ++
    [news .modified (failed "b2"), .input (.close .backup)] ++
    scheduleNews .deleted (schedule (some "nightly") (.string "main"))

/-- That tracker. -/
def halted : Tracker where
  schedule := "nightly"
  token := 1
  stage := .delivering
    { queue := [{ change := .modified, object := failed "b2" }], closed := true } ∅
    (.failure "backup failed: disk full") 1

end Sample

/-- A tracker that was stopped between two sinks hands its report to the second one, leaves the rest
alone, and has finished well after two steps. -/
theorem System.winds_down_of_cancelled_deregistered :
    ∃ u since, Reachable Sample.setup (Sample.systemAfter Sample.deregistered) ∧
      (Sample.systemAfter Sample.deregistered).roster.trackers[0]? = some Sample.halted ∧
      (Sample.systemAfter Sample.deregistered).roster.tokens.isCancelled Sample.halted.token ∧
      (Sample.systemAfter (Sample.deregistered ++ Sample.steps 2)).roster.trackers[0]? = some u ∧
      u.stage = .finished none ∧
      (Sample.systemAfter (Sample.deregistered ++ Sample.steps 2)).trace.ofTask (.tracker 0) =
        (Sample.systemAfter Sample.deregistered).trace.ofTask (.tracker 0) ++ since ∧
      (∀ what ∈ since, what.isWindDown = true) ∧
      Delivery.reportsAt 0 (since.filterMap delivery?) = [] ∧
      Delivery.reportsAt 1 (since.filterMap delivery?) = [.failure "backup failed: disk full"] := by
  have h : Reachable Sample.setup (Sample.systemAfter Sample.deregistered) :=
    ⟨Sample.deregistered, rfl⟩
  have ht : (Sample.systemAfter Sample.deregistered).roster.trackers[0]? = some Sample.halted := rfl
  have hcancel : (Sample.systemAfter Sample.deregistered).roster.tokens.isCancelled
      Sample.halted.token = true := rfl
  have hplay : (Sample.systemAfter Sample.deregistered).play Sample.setup (Sample.steps 2) =
      some (Sample.systemAfter (Sample.deregistered ++ Sample.steps 2)) := rfl
  obtain ⟨u, since, hu, hsince, hdoes, hhanded, -, hcount, hfinished, -⟩ :=
    System.winds_down_of_cancelled h ht hcancel rfl hplay
  have hnone : u.stage = .finished none := by
    have hsteps : (Sample.steps 2).countP (·.isStepOf (.tracker 0)) = 2 := by decide
    have hleft : Sample.halted.stage.stepsLeft Sample.setup = 2 := rfl
    exact hfinished.mp (by omega)
  rw [hnone] at hhanded
  have hfirst := hhanded 0 (by decide)
  have hsecond := hhanded 1 (by decide)
  exact ⟨u, since, h, ht, hcancel, hu, hnone, hsince, hdoes, (List.append_nil _).symm.trans hfirst,
    (List.append_nil _).symm.trans hsecond⟩

end BackupMonitor
