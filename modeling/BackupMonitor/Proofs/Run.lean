import BackupMonitor.Proofs.Feeds

/-!
# Runs of a system

A run is a list of moves: input from outside and steps of tasks, in any order. `Reachable` says
that some run from the empty system leads to a system, so what is proved of reachable systems
holds whatever comes in, and whatever task is chosen next.

* `Reachable.induct`: what every move keeps holds of every reachable system.
* `step_watcher_eq_some`, `step_tracker_eq_some`: what a step of a task leaves behind.
* `Reachable.advance`: the order in which `System.advance` runs the tasks is one such run.
-/

namespace BackupMonitor

/-- One thing that happens to a system. -/
inductive Move where
  /-- Input comes in. -/
  | input (input : Input)
  /-- A task takes a step. -/
  | step (task : TaskId)

namespace System

/-- The system after a move; `none` if the task cannot take a step. -/
def move (setup : Setup) (s : System) : Move → Option System
  | .input input => some (s.apply input)
  | .step task => s.step setup task

/-- The system after a list of moves; `none` if one of them cannot be made. -/
def play (setup : Setup) : System → List Move → Option System
  | s, [] => some s
  | s, move :: moves =>
    match s.move setup move with
    | some next => play setup next moves
    | none => none

/-! ## Playing moves one after the other -/

lemma play_append (setup : Setup) (s : System) (xs ys : List Move) :
    s.play setup (xs ++ ys) = (s.play setup xs).bind (·.play setup ys) := by
  induction xs generalizing s with
  | nil => rfl
  | cons x xs ih =>
    simp only [List.cons_append, play]
    cases s.move setup x with
    | none => rfl
    | some next => exact ih next

/-- Moves that can be made one list after the other can be made in one go. -/
lemma play_trans {setup : Setup} {s t u : System} {xs ys : List Move}
    (hst : s.play setup xs = some t) (htu : t.play setup ys = some u) :
    s.play setup (xs ++ ys) = some u := by
  rw [play_append, hst]
  exact htu

/-- What holds at first and is kept by input and by steps holds after any moves. -/
lemma play_invariant {setup : Setup} {P : System → Prop} {s t : System} {moves : List Move}
    (input : ∀ s input, P s → P (s.apply input))
    (step : ∀ s task next, P s → s.step setup task = some next → P next)
    (hs : P s) (h : s.play setup moves = some t) : P t := by
  -- the first move hands the invariant on to the system from which the others are played
  induction moves generalizing s with
  | nil => exact Option.some.inj h ▸ hs
  | cons x xs ih =>
    simp only [play] at h
    split at h
    next next hnext =>
      refine ih ?_ h
      cases x with
      | input i => exact Option.some.inj hnext ▸ input s i hs
      | step task => exact step s task next hs hnext
    next => cases h

/-! ## Reachable systems -/

/-- Some run from the empty system leads to `s`. -/
def Reachable (setup : Setup) (s : System) : Prop :=
  ∃ moves, ({} : System).play setup moves = some s

namespace Reachable

variable {setup : Setup} {s t : System}

lemma empty (setup : Setup) : Reachable setup {} := ⟨[], rfl⟩

lemma play {moves : List Move} (h : Reachable setup s) (hst : s.play setup moves = some t) :
    Reachable setup t := by
  obtain ⟨before, hbefore⟩ := h
  exact ⟨before ++ moves, play_trans hbefore hst⟩

/-- What holds of the empty system and is kept by every move holds of every reachable system. -/
theorem induct {P : System → Prop} (empty : P {}) (input : ∀ s input, P s → P (s.apply input))
    (step : ∀ s task next, P s → s.step setup task = some next → P next)
    (h : Reachable setup s) : P s := by
  obtain ⟨moves, hmoves⟩ := h
  exact play_invariant input step empty hmoves

end Reachable

/-! ## What a step leaves behind -/

variable {setup : Setup} {s next : System}

/-- A step of a watcher puts it into its next stage and takes over the roster it answers with. -/
lemma step_watcher_eq_some {index : Nat} (h : s.step setup (.watcher index) = some next) :
    ∃ w change, s.watchers[index]? = some w ∧
      w.step (s.view setup Tokens.root) s.roster = some change ∧
      next = { s with
        roster := change.roster
        watchers := s.watchers.modify index ({ · with stage := change.stage })
        server := serverAfter s.server change.did
        trace := s.trace ++ change.did.map (⟨.watcher index, ·⟩) } := by
  simp only [step] at h
  split at h
  next => cases h
  next w hw =>
    split at h
    next => cases h
    next change hchange => exact ⟨w, change, hw, hchange, (Option.some.inj h).symm⟩

/-- A step of a tracker puts it into its next stage; what it does may be followed by log lines. -/
lemma step_tracker_eq_some {index : Nat} (h : s.step setup (.tracker index) = some next) :
    ∃ t stage did, s.roster.trackers[index]? = some t ∧
      t.step (s.view setup t.token) = some (stage, did) ∧
      next = { s with
        roster := s.roster.setStage index stage
        server := serverAfter s.server (did ++ s.failureLog did)
        trace := s.trace ++ (did ++ s.failureLog did).map (⟨.tracker index, ·⟩) } := by
  simp only [step] at h
  split at h
  next => cases h
  next t ht =>
    split at h
    next => cases h
    next stage did hstep => exact ⟨t, stage, did, ht, hstep, (Option.some.inj h).symm⟩

/-- What follows a step of a tracker is nothing but log lines. -/
lemma failureLog_eq_logged (s : System) (did : List Occurrence) :
    ∃ lines : List Log.Line, s.failureLog did = lines.map .logged := by
  unfold failureLog
  split
  · exact ⟨[], rfl⟩
  · -- one line for each time that the task finished with an error
    induction did with
    | nil => exact ⟨[], rfl⟩
    | cons what did ih =>
      obtain ⟨lines, hlines⟩ := ih
      rw [List.filterMap_cons, hlines]
      split
      · exact ⟨lines, rfl⟩
      · next line hline =>
        split at hline
        · exact ⟨_ :: lines, by rw [← Option.some.inj hline]; rfl⟩
        · cases hline

/-! ## What a task did so far -/

/-- What a task did is what stands under its name. -/
lemma mem_ofTask {trace : Trace} {task : TaskId} {what : Occurrence} :
    what ∈ trace.ofTask task ↔ ⟨task, what⟩ ∈ trace := by
  unfold Trace.ofTask
  constructor
  · intro h
    obtain ⟨entry, hentry, rfl⟩ := List.mem_map.mp h
    obtain ⟨hmem, htask⟩ := List.mem_filter.mp hentry
    rwa [← beq_iff_eq.mp htask]
  · intro h
    exact List.mem_map_of_mem (List.mem_filter.mpr ⟨h, by simp⟩)

/-- A trace that goes on with what one task does goes on for that task only. -/
lemma ofTask_append_map (trace : Trace) (task other : TaskId) (did : List Occurrence) :
    Trace.ofTask (trace ++ did.map (⟨task, ·⟩)) other =
      trace.ofTask other ++ (if task = other then did else []) := by
  unfold Trace.ofTask
  rw [List.filter_append, List.map_append, List.filter_map, List.map_map]
  by_cases h : task = other
  · simp [h, Function.comp_def]
  · simp [h, Function.comp_def]

/-! ## The tasks run in some order -/

lemma stepNext?_eq_some {queue queue' : List TaskId}
    (h : s.stepNext? setup queue = some (next, queue')) :
    ∃ task, s.step setup task = some next := by
  induction queue with
  | nil => cases h
  | cons task queue ih =>
    simp only [stepNext?] at h
    split at h
    next _ hstep =>
      obtain ⟨rfl, -⟩ := Prod.mk.inj (Option.some.inj h)
      exact ⟨task, hstep⟩
    next => exact ih h

lemma exists_play_runFor (setup : Setup) (fuel : Nat) (s : System) (queue : List TaskId) :
    ∃ order : List TaskId, s.play setup (order.map .step) = some (runFor setup fuel s queue) := by
  -- a unit of fuel is one step, taken by whichever task of the queue can take it
  induction fuel generalizing s queue with
  | zero => exact ⟨[], rfl⟩
  | succ fuel ih =>
    unfold runFor
    split
    next next queue' hnext =>
      obtain ⟨task, htask⟩ := stepNext?_eq_some hnext
      obtain ⟨order, horder⟩ := ih next queue'
      have hmove : s.move setup (.step task) = some next := htask
      exact ⟨task :: order, by simp only [List.map_cons, play, hmove, horder]⟩
    next => exact ⟨[], rfl⟩

lemma play_input_applyAll (setup : Setup) (s : System) (batch : List Input) :
    s.play setup (batch.map .input) = some (s.applyAll setup batch).1 := by
  unfold applyAll
  -- the queue is written along but does not change what the input does
  generalize s.enqueue setup [] = queue
  induction batch generalizing s queue with
  | nil => rfl
  | cons input batch ih => exact ih (s.apply input) _

/-- Taking in a batch and letting the tasks run is a run. -/
lemma exists_play_advance (setup : Setup) (s : System) (batch : List Input) :
    ∃ moves, s.play setup moves = some (s.advance setup batch) := by
  obtain ⟨order, horder⟩ := exists_play_runFor setup _ (s.applyAll setup batch).1
    (s.applyAll setup batch).2
  exact ⟨_, play_trans (play_input_applyAll setup s batch) horder⟩

theorem Reachable.advance (h : Reachable setup s) (batch : List Input) :
    Reachable setup (s.advance setup batch) := by
  obtain ⟨moves, hmoves⟩ := exists_play_advance setup s batch
  exact h.play hmoves

end System

/-! ## A sample run -/

namespace Sample

/-- Two sinks, the first of which takes nothing. -/
def setup : Setup where
  space := "databases"
  sinks := [{ name := "down", respond := fun _ _ => some (.unreachable "refused") }, .void]

/-- The system after those moves, provided that all of them can be made. -/
def systemAfter (moves : List Move) : System :=
  (({} : System).play setup moves).getD {}

/-- Something happens to a backup. -/
def news (change : Change) (backup : Object) : Move :=
  .input (.event .backup { change, object := backup })

/-- The first tracker takes that many steps. -/
def steps (count : Nat) : List Move :=
  List.replicate count (.step (.tracker 0))

/-- A tracker of the schedule `nightly` starts and gets as far as its open watch. -/
def opening : List Move :=
  .input (.start (.tracker "nightly")) :: steps 5

end Sample

end BackupMonitor
