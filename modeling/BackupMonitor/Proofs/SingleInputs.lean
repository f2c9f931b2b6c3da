import BackupMonitor.Proofs.Convergence
import Mathlib.Data.List.Induction

/-!
# One input at a time

A session is a run in which input comes in one at a time, and the next one not before no task can
take a step (`System.Session`). Then each input wakes the trackers or the watcher, not both
(`System.WatcherRun.takesTurns_apply`), and two sessions over the same input are alike at every
point at which they have come to rest (`System.Session.alike`).
-/

namespace BackupMonitor

open Occurrence

namespace System

variable {setup : Setup} {cluster : String} {s s' t t' mid : System} {inputs : List Input}
  {input : Input}

/-- Input comes in, one at a time, and after each the tasks take steps until none of them can. -/
inductive Session (setup : Setup) (s : System) : List Input → System → Prop where
  /-- Nothing has come in. -/
  | start : Session setup s [] s
  /-- One more input comes in. -/
  | next {inputs : List Input} {input : Input} {mid t : System} (h : Session setup s inputs mid)
      (hsettles : Settles setup (mid.apply input) t) : Session setup s (inputs ++ [input]) t

/-- The session in which the tasks take their steps in the given order after each input; `none` if
the orders are not right for that. -/
def session? (setup : Setup) : System → List (Input × List TaskId) → Option System
  | s, [] => some s
  | s, (input, order) :: rest =>
    match (s.apply input).play setup (order.map .step) with
    | none => none
    | some next => if next.isAtRest setup then session? setup next rest else none

/-- What is computed from the orders is a session. -/
lemma Session.of_session? {start : System} (h : Session setup start inputs s)
    (turns : List (Input × List TaskId)) (hturns : s.session? setup turns = some t) :
    Session setup start (inputs ++ turns.map (·.1)) t := by
  induction turns generalizing s inputs with
  | nil =>
    obtain rfl := Option.some.inj hturns
    rwa [List.map_nil, List.append_nil]
  | cons turn rest ih =>
    obtain ⟨input, order⟩ := turn
    simp only [session?] at hturns
    split at hturns
    next => cases hturns
    next next hplay =>
      split at hturns
      next hrest =>
        have hall := ih (h.next ⟨order, hplay, hrest⟩) hturns
        rwa [List.append_assoc] at hall
      next => cases hturns

/-! ## What comes in -/

/-- What comes in over a watch changes what shows of the stage of a tracker in one way. -/
lemma plain_updateFeed (u : Tracker) (f : Feed → Feed) :
    (u.updateFeed f).stage.plain = (Tracker.updateFeed
      { schedule := "", token := Tokens.root, stage := u.stage.plain } f).stage := by
  obtain ⟨schedule, token, stage⟩ := u
  cases stage <;> rfl

/-- What changes how calls for backups are answered changes the climate, and in one way. -/
lemma climate_updateGate (s : System) (verb : Verb) (f : Gate → Gate) :
    System.climate setup { s with server := s.server.update .backup (·.updateGate verb f) } =
      (s.climate setup).updateGate verb f := by
  cases verb <;> rfl

namespace SameSurroundings

lemma withFeeds (h : SameSurroundings setup s s') (F : TaskId → Feed → Feed) :
    SameSurroundings setup (s.withFeeds F) (s'.withFeeds F) := by
  have hplain (s : System) : (s.withFeeds F).watchers.map Watcher.plain =
      (s.watchers.map Watcher.plain).mapIdx fun index w => w.updateFeed (F (.watcher index)) :=
    map_mapIdx (fun _ w => w.plain_updateFeed _) s.watchers
  refine ⟨h.schedules, h.climate, h.books, ?_, by rw [hplain, hplain, h.watchers], h.told⟩
  rw [roster_withFeeds, roster_withFeeds, Roster.origins_withFeeds, Roster.origins_withFeeds,
    h.origins]

lemma updateGate (h : SameSurroundings setup s s') (verb : Verb) (kind : ResourceKind)
    (f : Gate → Gate) :
    SameSurroundings setup { s with server := s.server.update kind (·.updateGate verb f) }
      { s' with server := s'.server.update kind (·.updateGate verb f) } := by
  cases kind with
  | backup =>
    refine ⟨h.schedules, ?_, h.books, h.origins, h.watchers, h.told⟩
    rw [climate_updateGate, climate_updateGate, h.climate]
  | scheduledBackup =>
    exact ⟨congrArg (·.updateGate verb f) h.schedules, h.climate, h.books, h.origins, h.watchers,
      h.told⟩

/-- The same input leaves surroundings the same. -/
lemma apply (h : SameSurroundings setup s s') (hrole : input.role? = none) :
    SameSurroundings setup (s.apply input) (s'.apply input) := by
  cases input with
  | start role => cases hrole
  | event => exact h.withFeeds _
  | close => exact h.withFeeds _
  | arrive => exact h.withFeeds _
  | items kind objects =>
    cases kind with
    | backup => exact ⟨h.schedules, h.climate, h.books, h.origins, h.watchers, h.told⟩
    | scheduledBackup =>
      exact ⟨congrArg (fun shelf : Shelf => { shelf with items := objects }) h.schedules, h.climate,
        h.books, h.origins, h.watchers, h.told⟩
  | fault verb kind message => exact h.updateGate verb kind _
  | hold verb kind held => exact h.updateGate verb kind _
  | holdSinks held =>
    exact ⟨h.schedules, congrArg (fun c : Climate => { c with sinksHeld := held }) h.climate,
      h.books, h.origins, h.watchers, h.told⟩
  | cancel =>
    exact ⟨h.schedules, h.climate,
      congrArg (fun r : Roster => { r with tokens := r.tokens.cancel Tokens.root }) h.books,
      h.origins, h.watchers, h.told⟩

end SameSurroundings

/-- The same input leaves systems alike. -/
lemma Alike.apply (h : Alike setup s s') (hrole : input.role? = none) :
    Alike setup (s.apply input) (s'.apply input) := by
  have hshown (index : Nat) : (s.apply input).shown index = (s'.apply input).shown index := by
    unfold System.shown
    rw [trace_apply, trace_apply]
    exact h.shown index
  refine ⟨h.same.apply hrole, ?_, hshown⟩
  have hfeeds (F : TaskId → Feed → Feed) : (s.withFeeds F).roster.trackers.map (·.stage.plain) =
      (s'.withFeeds F).roster.trackers.map (·.stage.plain) := by
    have hplain (s : System) : (s.withFeeds F).roster.trackers.map (·.stage.plain) =
        (s.roster.trackers.map (·.stage.plain)).mapIdx fun index stage => (Tracker.updateFeed
          { schedule := "", token := Tokens.root, stage } (F (.tracker index))).stage :=
      map_mapIdx (fun _ u => plain_updateFeed u _) s.roster.trackers
    rw [hplain, hplain, h.stages]
  cases input with
  | start role => cases hrole
  | event => exact hfeeds _
  | close => exact hfeeds _
  | arrive => exact hfeeds _
  | items => exact h.stages
  | fault => exact h.stages
  | hold => exact h.stages
  | holdSinks => exact h.stages
  | cancel => exact h.stages

/-- Systems that are alike converge. -/
lemma Alike.converges (h : Alike setup s s') : Converges setup s s' := by
  refine ⟨h.same, fun index u u' hu hu' cancelled _ => ?_⟩
  have hstage := congrArg (·[index]?) h.stages
  simp only [List.getElem?_map, hu, hu', Option.map_some, Option.some.injEq] at hstage
  rw [hstage, h.shown]
  exact .refl _

/-! ## Who is woken -/

/-- While a watcher waits for the trackers, all of them are cancelled. -/
lemma WatcherRun.isCancelled_of_isDraining (hrun : WatcherRun setup cluster s) {w : Watcher}
    (hw : s.watchers = [w]) (hstage : w.stage.isDraining = true) {u : Tracker}
    (hu : u ∈ s.roster.trackers) : s.roster.tokens.isCancelled u.token = true := by
  have hout : w.stage.isInCycle = false := by
    cases hstage' : w.stage with
    | draining => rfl
    | _ =>
      rw [hstage'] at hstage
      cases hstage
  have hempty := (hrun.reachable.isInLine.one w hw).empty hout
  by_contra hlive
  have horigin : u.origin ∈ s.roster.origins := List.mem_map_of_mem hu
  have hlive := Bool.eq_false_iff.mpr hlive
  have hget := ((hrun.isAccounted.isCancelled_eq_false_iff horigin).mp hlive).1
  rw [hempty] at hget
  cases hget

/-- Where nobody can take a step, the watcher is stuck, or all trackers are cancelled. -/
lemma WatcherRun.isStuck_or (hrun : WatcherRun setup cluster s) (hrest : s.isAtRest setup = true) :
    s.IsStuck setup ∨ ∀ u ∈ s.roster.trackers, s.roster.tokens.isCancelled u.token = true := by
  obtain ⟨w, hw, -⟩ := hrun.exists_watcher
  cases hstage : w.stage.isDraining with
  | true => exact .inr fun u hu => hrun.isCancelled_of_isDraining hw hstage hu
  | false =>
    refine .inl fun v hv => ?_
    rw [hw] at hv
    obtain rfl := List.mem_singleton.mp hv
    refine ⟨hstage, ?_⟩
    have hnone := isAtRest_iff.mp hrest (.watcher 0)
    cases hstep : v.step (s.view setup Tokens.root) s.roster with
    | none => rfl
    | some change => simp [step, hw, hstep] at hnone

/-- Where nobody can take a step, the trackers that are not cancelled are calm. -/
lemma isCalm_of_isAtRest (hrest : s.isAtRest setup = true) {u : Tracker}
    (hu : u ∈ s.roster.trackers) (hlive : s.roster.tokens.isCancelled u.token = false) :
    u.stage.IsCalm s.sinksHeld := by
  obtain ⟨index, hindex⟩ := List.mem_iff_getElem?.mp hu
  have hnone := advance_eq_none hindex (isAtRest_iff.mp hrest (.tracker index))
  have hstep : u.step (s.view setup u.token) = none := Tracker.advance_eq_none_iff.mp hnone
  exact Tracker.isCalm_of_step_eq_none hstep hlive

/-- One input does not wake a watcher and trackers that it may yet cancel. -/
theorem WatcherRun.takesTurns_apply (hrun : WatcherRun setup cluster s)
    (hrest : s.isAtRest setup = true) (hrole : input.role? = none) :
    (s.apply input).TakesTurns setup := by
  have hcalm : ∀ u ∈ s.roster.trackers, s.roster.tokens.isCancelled u.token = false →
      u.stage.IsCalm s.sinksHeld := fun u hu hlive => isCalm_of_isAtRest hrest hu hlive
  -- what comes in over the watches of the trackers is nothing to the watcher
  have hbackups {F : TaskId → Feed → Feed} (hF : ∀ index, F (.watcher index) = id) :
      (s.withFeeds F).TakesTurns setup := by
    rw [withFeeds_of_watcher_eq_id hF]
    intro hmoves u hu hlive
    rcases hrun.isStuck_or hrest with hstuck | hcancelled
    · refine absurd ?_ hmoves
      exact hstuck.of_seesAlike rfl rfl ⟨rfl, rfl, rfl⟩
    · have horigin : u.origin ∈ s.roster.origins :=
        s.roster.origins_withFeeds _ ▸ List.mem_map_of_mem hu
      obtain ⟨v, hv, hsame⟩ := List.mem_map.mp horigin
      have hcancel := hcancelled v hv
      rw [show v.token = u.token from congrArg Prod.snd hsame] at hcancel
      exact absurd (hcancel.symm.trans hlive) (by simp)
  have hschedules {F : TaskId → Feed → Feed} (hF : ∀ index, F (.tracker index) = id) :
      (s.withFeeds F).TakesTurns setup := by
    rw [withFeeds_of_tracker_eq_id hF]
    exact fun _ => hcalm
  cases input with
  | start role => cases hrole
  | event kind event =>
    cases kind with
    | backup => exact hbackups fun _ => rfl
    | scheduledBackup => exact hschedules fun _ => rfl
  | close kind =>
    cases kind with
    | backup => exact hbackups fun _ => rfl
    | scheduledBackup => exact hschedules fun _ => rfl
  | arrive task arrival =>
    cases task with
    | tracker index => exact hbackups fun _ => rfl
    | watcher index => exact hschedules fun _ => rfl
  | items => exact fun _ => hcalm
  | fault => exact fun _ => hcalm
  | hold => exact fun _ => hcalm
  | holdSinks held =>
    intro hmoves u hu hlive
    rcases hrun.isStuck_or hrest with hstuck | hcancelled
    · have hstuck : (s.apply (.holdSinks held)).IsStuck setup :=
        hstuck.of_seesAlike rfl rfl ⟨rfl, rfl, rfl⟩
      exact absurd hstuck hmoves
    · have hlive : s.roster.tokens.isCancelled u.token = false := hlive
      rw [hcancelled u hu] at hlive
      cases hlive
  | cancel =>
    -- then all trackers are cancelled along with the root
    intro _ u hu hlive
    have hafter : WatcherRun setup cluster (s.apply .cancel) := hrun.leadsTo (.of_input setup s rfl)
    have horigin : u.origin ∈ (s.apply .cancel).roster.origins := List.mem_map_of_mem hu
    have hroot := ((hafter.isAccounted.isCancelled_eq_false_iff horigin).mp hlive).2
    have hown : Tokens.root ∈ s.roster.tokens.lineage Tokens.root := by
      rw [hrun.isAccounted.root]
      exact List.mem_cons_self
    have hcancel : (s.apply .cancel).roster.tokens.isCancelled Tokens.root = true :=
      Tokens.isCancelled_of_mem_fired hown List.mem_cons_self
    rw [hroot] at hcancel
    cases hcancel

/-- One more input, in systems that are alike, and then the steps in any order: they are alike when
they come to rest. -/
lemma Alike.next (h : Alike setup s s') (hrun : WatcherRun setup cluster s)
    (hrun' : WatcherRun setup cluster s') (hrest : s.isAtRest setup = true)
    (hrest' : s'.isAtRest setup = true) (hrole : input.role? = none)
    (hst : Settles setup (s.apply input) t) (hst' : Settles setup (s'.apply input) t') :
    Alike setup t t' := by
  have hnow := hrun.leadsTo (.of_input setup s hrole)
  have hnow' := hrun'.leadsTo (.of_input setup s' hrole)
  have hconverges := (h.apply hrole).converges.of_settles hnow hnow'
    (hrun.takesTurns_apply hrest hrole) (hrun'.takesTurns_apply hrest' hrole) hst hst'
  exact hconverges.alike (hnow.leadsTo hst.leadsTo) (hnow'.leadsTo hst'.leadsTo) hst.isAtRest
    hst'.isAtRest

/-! ## Sessions -/

/-- Where there is no task, nothing happens. -/
lemma IsIdle.eq_of_settles (h : IsIdle s) (hsettles : Settles setup s t) : t = s :=
  hsettles.eq_of_isAtRest (isAtRest_iff.mpr h.step_eq_none)

namespace Session

lemma eq_of_nil (h : Session setup s [] t) : t = s := by
  generalize hnone : ([] : List Input) = none at h
  cases h with
  | start => rfl
  | next => simp at hnone

/-- The last input of a session. -/
lemma exists_of_append (h : Session setup s (inputs ++ [input]) t) :
    ∃ mid, Session setup s inputs mid ∧ Settles setup (mid.apply input) t := by
  generalize hall : inputs ++ [input] = all at h
  cases h with
  | start => simp at hall
  | next h hsettles =>
    obtain ⟨rfl, hinput⟩ := List.append_inj' hall rfl
    obtain rfl := List.singleton_inj.mp hinput
    exact ⟨_, h, hsettles⟩

/-- A session is a run in which the same tasks are started. -/
lemma exists_moves (h : Session setup s inputs t) :
    ∃ moves : List Move, moves.filterMap Move.role? = inputs.filterMap Input.role? ∧
      s.play setup moves = some t := by
  induction h with
  | start => exact ⟨[], rfl, rfl⟩
  | @next inputs input mid t _ hsettles ih =>
    obtain ⟨moves, hroles, hplay⟩ := ih
    obtain ⟨order, horder, hsettled⟩ := hsettles.leadsTo
    have hinput : mid.play setup [.input input] = some (mid.apply input) := rfl
    refine ⟨moves ++ ([.input input] ++ order), ?_, play_trans hplay (play_trans hinput hsettled)⟩
    rw [List.filterMap_append, List.filterMap_append, List.filterMap_append, hroles, horder,
      List.append_nil]
    rfl

lemma leadsTo (h : Session setup s inputs t) (hroles : inputs.filterMap Input.role? = []) :
    LeadsTo setup s t := by
  obtain ⟨moves, hmoves, hplay⟩ := h.exists_moves
  exact ⟨moves, hmoves.trans hroles, hplay⟩

lemma watcherRun (h : Session setup {} inputs s)
    (hroles : inputs.filterMap Input.role? = [.watcher cluster]) : WatcherRun setup cluster s := by
  obtain ⟨moves, hmoves, hplay⟩ := h.exists_moves
  exact ⟨moves, hmoves.trans hroles, hplay⟩

/-- Before a task is started nothing happens, so there is one way in which a session can go. -/
lemma eq_of_idle (h : Session setup {} inputs s) (h' : Session setup {} inputs s')
    (hroles : inputs.filterMap Input.role? = []) : IsIdle s ∧ s = s' := by
  induction inputs using List.reverseRecOn generalizing s s' with
  | nil =>
    obtain rfl := h.eq_of_nil
    obtain rfl := h'.eq_of_nil
    exact ⟨.empty, rfl⟩
  | append_singleton inputs input ih =>
    obtain ⟨mid, hmid, hsettles⟩ := h.exists_of_append
    obtain ⟨mid', hmid', hsettles'⟩ := h'.exists_of_append
    rw [List.filterMap_append, List.append_eq_nil_iff, List.filterMap_eq_nil_iff,
      List.filterMap_eq_nil_iff] at hroles
    obtain ⟨hbefore, hnow⟩ := hroles
    obtain ⟨hidle, rfl⟩ := ih hmid hmid' (List.filterMap_eq_nil_iff.mpr hbefore)
    have hidle := hidle.apply (hnow input List.mem_cons_self)
    obtain rfl := hidle.eq_of_settles hsettles
    obtain rfl := hidle.eq_of_settles hsettles'
    exact ⟨hidle, rfl⟩

/-- The watcher starts after a session in which there was no task, and then tasks take steps in any
order: the systems are alike when they come to rest. -/
lemma alike_of_start (h : Session setup {} inputs s) (hroles : inputs.filterMap Input.role? = [])
    (hst : Settles setup (s.apply (.start (.watcher cluster))) t)
    (hst' : Settles setup (s.apply (.start (.watcher cluster))) t') : Alike setup t t' := by
  obtain ⟨hidle, -⟩ := h.eq_of_idle h hroles
  have hstarted : WatcherRun setup cluster (s.apply (.start (.watcher cluster))) := by
    obtain ⟨moves, hmoves, hplay⟩ := h.exists_moves
    refine ⟨moves ++ [.input (.start (.watcher cluster))], ?_, play_trans hplay rfl⟩
    rw [List.filterMap_append, hmoves, hroles]
    rfl
  have hturns : (s.apply (.start (.watcher cluster))).TakesTurns setup := by
    intro _ u hu
    have hu : u ∈ s.roster.trackers := hu
    rw [hidle.trackers] at hu
    cases hu
  have hconverges := (Converges.refl setup _).of_settles hstarted hstarted hturns hturns hst hst'
  exact hconverges.alike (hstarted.leadsTo hst.leadsTo) (hstarted.leadsTo hst'.leadsTo)
    hst.isAtRest hst'.isAtRest

/-- The order in which the tasks take their steps makes no difference to what shows. -/
theorem alike (h : Session setup {} inputs s) (h' : Session setup {} inputs s')
    (hroles : inputs.filterMap Input.role? = [.watcher cluster]) :
    s.isAtRest setup = true ∧ s'.isAtRest setup = true ∧ Alike setup s s' := by
  induction inputs using List.reverseRecOn generalizing s s' with
  | nil => cases hroles
  | append_singleton inputs input ih =>
    obtain ⟨mid, hmid, hsettles⟩ := h.exists_of_append
    obtain ⟨mid', hmid', hsettles'⟩ := h'.exists_of_append
    refine ⟨hsettles.isAtRest, hsettles'.isAtRest, ?_⟩
    -- the watcher starts now, or it was started before
    cases hrole : input.role? with
    | some role =>
      rw [List.filterMap_append, List.filterMap_cons_some hrole, List.filterMap_nil,
        ← List.nil_append [Role.watcher cluster]] at hroles
      obtain ⟨hbefore, hnow⟩ := List.append_inj' hroles rfl
      obtain rfl := List.singleton_inj.mp hnow
      obtain ⟨-, rfl⟩ := hmid.eq_of_idle hmid' hbefore
      obtain rfl : input = .start (.watcher cluster) := by
        cases input with
        | start role => rw [Option.some.inj hrole]
        | _ => cases hrole
      exact hmid.alike_of_start hbefore hsettles hsettles'
    | none =>
      rw [List.filterMap_append, List.filterMap_cons_none hrole, List.filterMap_nil,
        List.append_nil] at hroles
      obtain ⟨hmidrest, hmidrest', halike⟩ := ih hmid hmid' hroles
      exact halike.next (hmid.watcherRun hroles) (hmid'.watcherRun hroles) hmidrest hmidrest'
        hrole hsettles hsettles'

end Session

/-- Sessions over the same input, from systems that are alike, lead to systems that are alike. -/
theorem Alike.session (h : Alike setup s s') (hrun : WatcherRun setup cluster s)
    (hrun' : WatcherRun setup cluster s') (hrest : s.isAtRest setup = true)
    (hrest' : s'.isAtRest setup = true) (hsession : Session setup s inputs t)
    (hsession' : Session setup s' inputs t') (hroles : inputs.filterMap Input.role? = []) :
    t.isAtRest setup = true ∧ t'.isAtRest setup = true ∧ Alike setup t t' := by
  induction inputs using List.reverseRecOn generalizing t t' with
  | nil =>
    obtain rfl := hsession.eq_of_nil
    obtain rfl := hsession'.eq_of_nil
    exact ⟨hrest, hrest', h⟩
  | append_singleton inputs input ih =>
    obtain ⟨mid, hmid, hsettles⟩ := hsession.exists_of_append
    obtain ⟨mid', hmid', hsettles'⟩ := hsession'.exists_of_append
    rw [List.filterMap_append, List.append_eq_nil_iff] at hroles
    have hrole : input.role? = none :=
      List.filterMap_eq_nil_iff.mp hroles.2 input List.mem_cons_self
    obtain ⟨hmidrest, hmidrest', halike⟩ := ih hmid hmid' hroles.1
    exact ⟨hsettles.isAtRest, hsettles'.isAtRest, halike.next (hrun.leadsTo (hmid.leadsTo hroles.1))
      (hrun'.leadsTo (hmid'.leadsTo hroles.1)) hmidrest hmidrest' hrole hsettles hsettles'⟩

end System

end BackupMonitor
