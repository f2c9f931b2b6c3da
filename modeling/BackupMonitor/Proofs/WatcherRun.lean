import BackupMonitor.Proofs.Run

/-!
# Runs of a watcher

In the run of a watcher, the watcher is the one task that is started from outside, so every tracker
is one that it started. What else comes in is left open, before the start as well as after it, and
so is the order in which the tasks take their steps.

* `System.WatcherRun`: the systems that such runs lead to.
* `System.LeadsTo`: what a run comes to when no further task is started from outside.
* `WatcherRun.induct`: what holds at the start and is kept by every other move holds in every run
  of a watcher.
-/

namespace BackupMonitor

/-- The role of the task that is started. -/
def Input.role? : Input → Option Role
  | .start role => some role
  | _ => none

/-- The role of the task that is started from outside. -/
def Move.role? : Move → Option Role
  | .input taken => taken.role?
  | .step _ => none

namespace System

variable {setup : Setup} {cluster : String} {s t u next : System}

/-! ## The rest of a run -/

/-- A run leads from `s` to `next` in which no task is started from outside. -/
def LeadsTo (setup : Setup) (s next : System) : Prop :=
  ∃ moves : List Move, moves.filterMap Move.role? = [] ∧ s.play setup moves = some next

namespace LeadsTo

lemma of_step {task : TaskId} (h : s.step setup task = some next) : LeadsTo setup s next :=
  ⟨[.step task], rfl, by simp only [play, move, h]⟩

lemma of_input (setup : Setup) (s : System) {input : Input} (hrole : input.role? = none) :
    LeadsTo setup s (s.apply input) :=
  ⟨[.input input], List.filterMap_cons_none hrole, rfl⟩

lemma trans (h : LeadsTo setup s t) (h' : LeadsTo setup t u) : LeadsTo setup s u := by
  obtain ⟨xs, hxs, hplay⟩ := h
  obtain ⟨ys, hys, hplay'⟩ := h'
  exact ⟨xs ++ ys, by rw [List.filterMap_append, hxs, hys, List.append_nil],
    play_trans hplay hplay'⟩

/-- What is kept by steps, and by input that starts no task, is kept. -/
theorem invariant {P : System → Prop}
    (input : ∀ s input, input.role? = none → P s → P (s.apply input))
    (step : ∀ s task next, P s → s.step setup task = some next → P next)
    (hs : P s) (h : LeadsTo setup s next) : P next := by
  obtain ⟨moves, hroles, hplay⟩ := h
  -- the first move hands the property on to the system from which the others are played
  induction moves generalizing s with
  | nil => exact Option.some.inj hplay ▸ hs
  | cons x xs ih =>
    rw [List.filterMap_eq_nil_iff] at hroles
    have hrest : xs.filterMap Move.role? = [] :=
      List.filterMap_eq_nil_iff.mpr fun y hy => hroles y (List.mem_cons_of_mem _ hy)
    simp only [play] at hplay
    split at hplay
    next mid hmid =>
      refine ih ?_ hrest hplay
      cases x with
      | input i => exact Option.some.inj hmid ▸ input s i (hroles _ List.mem_cons_self) hs
      | step task => exact step s task mid hs hmid
    next => cases hplay

end LeadsTo

/-! ## From the start of a watcher -/

/-- A run leads to `s` in which a watcher of the cluster is started from outside, and no other
task. -/
def WatcherRun (setup : Setup) (cluster : String) (s : System) : Prop :=
  ∃ moves : List Move, moves.filterMap Move.role? = [.watcher cluster] ∧
    ({} : System).play setup moves = some s

/-- No task was started. -/
structure IsIdle (s : System) : Prop where
  /-- There is no watcher. -/
  watchers : s.watchers = []
  /-- There is no tracker. -/
  trackers : s.roster.trackers = []
  /-- Nothing is registered. -/
  registry : s.roster.registry = ∅
  /-- The root is the only token. -/
  tokens : s.roster.tokens.lineages = [[Tokens.root]]
  /-- No other token was cancelled. -/
  fired : ∀ token ∈ s.roster.tokens.fired, token = Tokens.root
  /-- Nothing was done. -/
  trace : s.trace = []

lemma IsIdle.empty : IsIdle {} :=
  ⟨rfl, rfl, rfl, rfl, fun _ htoken => absurd htoken List.not_mem_nil, rfl⟩

lemma IsIdle.apply (h : IsIdle s) {input : Input} (hrole : input.role? = none) :
    IsIdle (s.apply input) := by
  have hfeeds (F : TaskId → Feed → Feed) : IsIdle (s.withFeeds F) :=
    ⟨by rw [withFeeds, h.watchers, List.mapIdx_nil],
      by rw [withFeeds, Roster.withFeeds, h.trackers, List.mapIdx_nil],
      h.registry, h.tokens, h.fired, h.trace⟩
  cases input with
  | start role => cases hrole
  | event => exact hfeeds _
  | close => exact hfeeds _
  | arrive => exact hfeeds _
  | items => exact ⟨h.watchers, h.trackers, h.registry, h.tokens, h.fired, h.trace⟩
  | fault => exact ⟨h.watchers, h.trackers, h.registry, h.tokens, h.fired, h.trace⟩
  | hold => exact ⟨h.watchers, h.trackers, h.registry, h.tokens, h.fired, h.trace⟩
  | holdSinks => exact ⟨h.watchers, h.trackers, h.registry, h.tokens, h.fired, h.trace⟩
  | cancel =>
    refine ⟨h.watchers, h.trackers, h.registry, h.tokens, fun token htoken => ?_, h.trace⟩
    rcases List.mem_cons.mp htoken with hroot | hfired
    · exact hroot
    · exact h.fired token hfired

/-- Where there is no task, none can take a step. -/
lemma IsIdle.step_eq_none (h : IsIdle s) (task : TaskId) : s.step setup task = none := by
  cases task with
  | watcher index => simp only [step, h.watchers, List.getElem?_nil]
  | tracker index => simp only [step, h.trackers, List.getElem?_nil]

/-- Where no task is started there is none. -/
lemma IsIdle.leadsTo (h : IsIdle s) (hst : LeadsTo setup s t) : IsIdle t := by
  refine hst.invariant (fun _ _ hrole h => h.apply hrole) (fun s task next h hstep => ?_) h
  rw [h.step_eq_none] at hstep
  cases hstep

namespace WatcherRun

/-- What holds when the watcher starts, and is kept by steps and by all other input, holds in every
run of the watcher. -/
theorem induct {P : System → Prop}
    (start : ∀ s, IsIdle s → P (s.start (.watcher cluster)))
    (input : ∀ s input, input.role? = none → P s → P (s.apply input))
    (step : ∀ s task next, P s → s.step setup task = some next → P next)
    (h : WatcherRun setup cluster s) : P s := by
  obtain ⟨moves, hroles, hplay⟩ := h
  obtain ⟨before, now, after, rfl, hbefore, hnow, hafter⟩ := List.filterMap_eq_cons_iff.mp hroles
  -- the moves before the start find nothing to do, and those after it start nothing
  rw [play_append, Option.bind_eq_some_iff] at hplay
  obtain ⟨mid, hmid, hplay⟩ := hplay
  have hidle : IsIdle mid := IsIdle.empty.leadsTo
    ⟨before, List.filterMap_eq_nil_iff.mpr hbefore, hmid⟩
  cases now with
  | step task => cases hnow
  | input i =>
    cases i with
    | start role =>
      obtain rfl : role = .watcher cluster := Option.some.inj hnow
      exact LeadsTo.invariant input step (start mid hidle) ⟨after, hafter, hplay⟩
    | _ => cases hnow

lemma reachable (h : WatcherRun setup cluster s) : Reachable setup s := by
  obtain ⟨moves, -, hplay⟩ := h
  exact ⟨moves, hplay⟩

lemma leadsTo (h : WatcherRun setup cluster s) (hst : LeadsTo setup s t) :
    WatcherRun setup cluster t := by
  obtain ⟨xs, hxs, hs⟩ := h
  obtain ⟨ys, hys, hst⟩ := hst
  exact ⟨xs ++ ys, by rw [List.filterMap_append, hxs, hys, List.append_nil], play_trans hs hst⟩

end WatcherRun

/-! ## The one watcher -/

/-- A step of the only watcher there is. -/
lemma step_watcher_of_alone {w : Watcher} (hw : s.watchers = [w]) {index : Nat}
    (h : s.step setup (.watcher index) = some next) :
    ∃ change, index = 0 ∧ w.step (s.view setup Tokens.root) s.roster = some change ∧
      next = { s with
        roster := change.roster
        watchers := [{ w with stage := change.stage }]
        server := serverAfter s.server change.did
        trace := s.trace ++ change.did.map (⟨.watcher index, ·⟩) } := by
  obtain ⟨v, change, hv, hchange, rfl⟩ := step_watcher_eq_some h
  have hlt : index < s.watchers.length := (List.getElem?_eq_some_iff.mp hv).1
  rw [hw, List.length_singleton] at hlt
  obtain rfl : index = 0 := by omega
  obtain rfl : w = v := by simpa [hw] using hv
  exact ⟨change, rfl, hchange, by rw [hw]; rfl⟩

end System

end BackupMonitor
