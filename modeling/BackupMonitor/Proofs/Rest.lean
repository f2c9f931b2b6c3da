import BackupMonitor.Proofs.Convergence
import Mathlib.Algebra.GroupWithZero.Nat

/-!
# The tasks come to rest

Each step of a tracker lowers its budget, and each step of a watcher lowers its own budget by more
than the budget of the trackers that it starts. So whatever the order of the steps is, there are no
more of them than the budget of the system, until new input comes in (`System.length_le_budget`),
and some order leads to where nobody can take a step (`System.exists_settles`).
-/

namespace BackupMonitor

open Occurrence

namespace Tracker

variable {view : View} {schedule : String} {token : Token} {stage stage' : TrackerStage}
  {did : List Occurrence}

/-- An event leads to one report at most. -/
lemma budget_take_le (setup : Setup) (count : Nat) (feed : Feed) (tracked : Tracked)
    (event : Event) :
    budget count { schedule, token, stage := (take setup schedule feed tracked event).1 } ≤
      count + 1 + feedBudget count feed := by
  simp only [take]
  cases (react schedule tracked event).report with
  | none => exact Nat.le_add_left _ _
  | some report =>
    cases setup.sinks.isEmpty with
    | true => exact Nat.le_add_left _ _
    | false =>
      show count - 0 + feedBudget count feed + 1 ≤ count + 1 + feedBudget count feed
      omega

/-- Each step of a tracker lowers its budget. -/
lemma Step.budget_lt (h : Step view schedule stage stage' did) :
    budget view.setup.sinks.length { schedule, token, stage := stage' } <
      budget view.setup.sinks.length { schedule, token, stage } := by
  cases h with
  | cancel _ hstage =>
    cases stage with
    | spawned => cases hstage
    | delivering => cases hstage
    | finished => cases hstage
    | following feed tracked => simp only [budget, finish, feedBudget]; omega
    | _ => simp [budget, finish]
  | @take feed tracked event queue _ hqueue =>
    refine Nat.lt_of_le_of_lt (budget_take_le view.setup _ _ tracked event) ?_
    show _ < feedBudget view.setup.sinks.length feed
    simp only [feedBudget, hqueue, List.length_cons, Nat.add_mul]
    omega
  | sawEnd _ hqueue hclosed => simp [budget, feedBudget, hqueue, hclosed]
  | @deliver feed tracked report place =>
    simp only [Tracker.deliver]
    split
    · simp only [budget]
      omega
    · split
      · simp only [budget]
        omega
      · simp only [budget]
        omega
  | begin => simp [budget]
  | callList => simp [budget]
  | listFails => simp [budget, finish]
  | listed => simp [budget]
  | callWatch => simp [budget]
  | watchFails => simp [budget, finish]
  | opened => simp [budget, feedBudget]

end Tracker

/-! ## Trackers that are started -/

namespace Roster

lemma length_start_le (r : Roster) (schedule : String) :
    (r.start schedule).1.trackers.length ≤ r.trackers.length + 1 := by
  simp only [start]
  split
  · exact Nat.le_succ _
  · simp

lemma length_startIfTargeting_le (r : Roster) (cluster name : String) (schedule : Object) :
    (r.startIfTargeting cluster name schedule).1.trackers.length ≤ r.trackers.length + 1 := by
  simp only [startIfTargeting]
  split
  · exact length_start_le r name
  · exact Nat.le_succ _

lemma length_enlistAll_le (cluster : String) (r : Roster) (schedules : List Object) :
    (r.enlistAll cluster schedules).1.trackers.length ≤ r.trackers.length + schedules.length := by
  induction schedules generalizing r with
  | nil => exact Nat.le_refl _
  | cons schedule rest ih =>
    rw [enlistAll_cons]
    have hfirst : (enlist cluster r schedule).1.trackers.length ≤ r.trackers.length + 1 := by
      unfold enlist
      split
      · exact Nat.le_succ _
      · exact length_startIfTargeting_le r cluster _ schedule
    have hrest := ih (enlist cluster r schedule).1
    simp only [List.length_cons]
    omega

lemma length_consider_le (cluster : String) (r : Roster) (event : Event) :
    (r.consider cluster event).1.trackers.length ≤ r.trackers.length + 1 := by
  unfold consider
  split
  · exact Nat.le_succ _
  · split
    · exact length_startIfTargeting_le r cluster _ _
    · split
      · exact length_startIfTargeting_le r cluster _ _
      · exact Nat.le_succ _
    · exact Nat.le_succ _

end Roster

namespace Watcher

variable {view : View} {r : Roster} {cluster : String} {stage : WatcherStage}
  {change : WatcherChange}

/-- Whoever waits for the trackers has left behind what it could do otherwise. -/
lemma budget_drain (items : Nat) (r : Roster) (next : AfterDrain) (did : List Occurrence) :
    budget items { cluster, stage := (drain r next did).stage } +
        6 * (drain r next did).roster.trackers.length =
      budget items { cluster, stage := .draining next 0 } + 6 * r.trackers.length := by
  have htrackers : (drain r next did).roster.trackers = r.trackers := Roster.trackers_close _
  rw [htrackers]
  cases next <;> rfl

/-- Each step of a watcher lowers its budget by more than the budget of the trackers that it
starts. -/
lemma Step.budget_lt (h : Step view r cluster stage change) :
    budget view.server.schedules.items.length { cluster, stage := change.stage } +
        6 * change.roster.trackers.length <
      budget view.server.schedules.items.length { cluster, stage } + 6 * r.trackers.length := by
  cases h with
  | begin => simp [budget]
  | relist => simp [afterDrain, budget, Roster.reopen]
  | finish => simp [afterDrain, budget, Roster.reopen]
  | cancel _ hstage =>
    rw [budget_drain]
    cases stage with
    | spawned => cases hstage
    | draining => cases hstage
    | finished => cases hstage
    | _ => simp only [budget, relistBudget]; omega
  | callList => simp only [budget, relistBudget]; omega
  | listFails =>
    rw [budget_drain]
    simp only [budget]
    omega
  | listed =>
    have hlength := r.length_enlistAll_le cluster (view.listing .scheduledBackup).items
    have hitems : (view.listing .scheduledBackup).items = view.server.schedules.items := rfl
    rw [hitems] at hlength
    simp only [budget, hitems]
    omega
  | callWatch => simp only [budget]; omega
  | watchFails =>
    rw [budget_drain]
    simp only [budget]
    omega
  | opened => simp [budget]
  | @take feed event queue _ hqueue =>
    have hlength := r.length_consider_le cluster event
    simp only [budget, hqueue, List.length_cons]
    omega
  | sawEnd _ hqueue hclosed =>
    rw [budget_drain]
    simp only [budget, hqueue, hclosed, if_true]
    omega

end Watcher

/-! ## The system -/

/-- What the modified entry of a list adds to a sum. -/
lemma sum_map_modify {α : Type} (g : α → Nat) (f : α → α) {xs : List α} {index : Nat} {x : α}
    (h : xs[index]? = some x) :
    ((xs.modify index f).map g).sum + g x = (xs.map g).sum + g (f x) := by
  induction xs generalizing index with
  | nil => cases h
  | cons y ys ih =>
    cases index with
    | zero =>
      obtain rfl := Option.some.inj h
      simp only [List.modify_zero_cons, List.map_cons, List.sum_cons]
      omega
    | succ index =>
      have hrest := @ih index h
      simp only [List.modify_succ_cons, List.map_cons, List.sum_cons]
      omega

namespace System

variable {setup : Setup} {s t next : System}

lemma items_serverAfter (server : Server) (did : List Occurrence) :
    (serverAfter server did).schedules.items = server.schedules.items := by
  unfold serverAfter
  induction did generalizing server with
  | nil => rfl
  | cons what did ih =>
    rw [List.foldl_cons]
    cases what with
    | listed kind listing => cases kind <;> exact ih _
    | _ => exact ih server

lemma budget_eq_sum (setup : Setup) (s : System) :
    s.budget setup = (s.watchers.map (·.budget s.server.schedules.items.length)).sum +
      (s.roster.trackers.map (·.budget setup.sinks.length)).sum := rfl

/-- Every step lowers the budget. -/
theorem budget_lt_of_step {task : TaskId} (h : s.step setup task = some next) :
    next.budget setup < s.budget setup := by
  rw [budget_eq_sum, budget_eq_sum]
  cases task with
  | tracker index =>
    obtain ⟨u, stage, did, hu, hdid, rfl⟩ := step_tracker_eq_some h
    have hlower : Tracker.budget setup.sinks.length { u with stage } <
        u.budget setup.sinks.length := (Tracker.step_cases hdid).budget_lt
    have hsum := sum_map_modify (·.budget setup.sinks.length) ({ · with stage }) hu
    simp only [items_serverAfter, Roster.trackers_setStage]
    omega
  | watcher index =>
    obtain ⟨w, change, hw, hchange, rfl⟩ := step_watcher_eq_some h
    have hlower : Watcher.budget s.server.schedules.items.length { w with stage := change.stage } +
        6 * change.roster.trackers.length <
      w.budget s.server.schedules.items.length + 6 * s.roster.trackers.length :=
      (Watcher.step_cases hchange).budget_lt
    obtain ⟨fresh, htrackers, hspawned⟩ := (Watcher.step_cases hchange).extends_roster
    have hfresh : (fresh.map (·.budget setup.sinks.length)).sum = 6 * fresh.length := by
      have hsix : fresh.map (·.budget setup.sinks.length) = List.replicate fresh.length 6 := by
        rw [List.eq_replicate_iff]
        refine ⟨List.length_map _, fun count hcount => ?_⟩
        obtain ⟨u, hu, rfl⟩ := List.mem_map.mp hcount
        simp only [Tracker.budget, hspawned u hu]
      rw [hsix, List.sum_replicate_nat, Nat.mul_comm]
    have hsum := sum_map_modify (·.budget s.server.schedules.items.length)
      ({ · with stage := change.stage }) hw
    simp only [items_serverAfter, htrackers, List.map_append, List.sum_append, List.length_append,
      hfresh] at hlower ⊢
    omega

/-- There are no more steps than the budget allows, whatever their order is. -/
theorem length_le_budget {order : List TaskId} (h : s.play setup (order.map .step) = some t) :
    order.length + t.budget setup ≤ s.budget setup := by
  induction order generalizing s with
  | nil =>
    obtain rfl := Option.some.inj h
    simp
  | cons task rest ih =>
    obtain ⟨mid, hstep, hrest⟩ := exists_of_play_step h
    have hlower := budget_lt_of_step hstep
    have hle := ih hrest
    rw [List.length_cons]
    omega

/-- Some order leads to where nobody can take a step. -/
theorem exists_settles (setup : Setup) (s : System) : ∃ t, Settles setup s t := by
  induction hbudget : s.budget setup using Nat.strong_induction_on generalizing s with
  | _ count ih =>
    by_cases hrest : s.isAtRest setup = true
    · exact ⟨s, [], rfl, hrest⟩
    · obtain ⟨task, hstep⟩ : ∃ task, s.step setup task ≠ none := by
        by_contra hnone
        exact hrest (isAtRest_iff.mpr fun task => by_contra fun hstep => hnone ⟨task, hstep⟩)
      obtain ⟨next, hnext⟩ := Option.ne_none_iff_exists'.mp hstep
      obtain ⟨t, ht⟩ := ih _ (hbudget ▸ budget_lt_of_step hnext) next rfl
      exact ⟨t, ht.of_step hnext⟩

end System

end BackupMonitor
