import BackupMonitor.Proofs.Books
import BackupMonitor.Proofs.Cancellation
import BackupMonitor.Proofs.Dialogue
import BackupMonitor.Proofs.Generations
import BackupMonitor.Proofs.Prospects

/-!
# Orders that come to the same

Between two inputs the tasks of a system take their steps in some order. Two systems converge if the
same is in store for their trackers, under the tokens that these have and may get
(`System.Converges`). They still do after a step of a tracker of one of them (`Converges.step`) and
after a step of the watcher in both (`Converges.watcher`), so once nobody can take a step they are
the same in all that shows (`Converges.of_settles`, `Converges.alike`).

This rests on the order of inputs: one comes in at a time, and it wakes the trackers or the watcher,
not both. A tracker that may yet be cancelled has nothing to report by then (`System.TakesTurns`).
-/

namespace BackupMonitor

open Occurrence

/-! ## What a step means to the server -/

namespace System

lemma gates_serverAfter (server : Server) (did : List Occurrence) :
    (serverAfter server did).backups.lists = server.backups.lists ∧
      (serverAfter server did).backups.watches = server.backups.watches := by
  unfold serverAfter
  induction did generalizing server with
  | nil => exact ⟨rfl, rfl⟩
  | cons what did ih =>
    rw [List.foldl_cons]
    cases what with
    | listed kind listing => cases kind <;> exact ih _
    | _ => exact ih server

lemma schedules_serverAfter {server server' : Server} (h : server.schedules = server'.schedules)
    (did : List Occurrence) :
    (serverAfter server did).schedules = (serverAfter server' did).schedules := by
  unfold serverAfter
  induction did generalizing server server' with
  | nil => exact h
  | cons what did ih =>
    rw [List.foldl_cons, List.foldl_cons]
    refine ih ?_
    cases what with
    | listed kind listing =>
      cases kind with
      | backup => exact h
      | scheduledBackup => exact congrArg (fun shelf => { shelf with listed := shelf.listed + 1 }) h
    | _ => exact h

end System

/-- A tracker does not list schedules. -/
lemma Tracker.Step.schedules_serverAfter {view : View} {schedule : String}
    {stage stage' : TrackerStage} {did : List Occurrence} (h : Step view schedule stage stage' did)
    (lines : List Log.Line) (server : Server) :
    (System.serverAfter server (did ++ lines.map logged)).schedules = server.schedules := by
  rw [← System.serverAfter_exchange, exchange_append, exchange_logged, List.append_nil]
  cases h with
  | take => rw [exchange_take]; rfl
  | deliver => rw [exchange_deliver]; rfl
  | _ => rfl

namespace System

variable {setup : Setup} {cluster : String} {s s' next next' t t' : System} {index : Nat}

/-! ## What a step of a tracker leaves alone -/

/-- What the steps of the trackers depend on. -/
def climate (setup : Setup) (s : System) : Climate where
  setup := setup
  lists := s.server.backups.lists
  watches := s.server.backups.watches
  sinksHeld := s.sinksHeld

/-- What shows of what a tracker did. -/
def shown (s : System) (index : Nat) : List Occurrence :=
  (s.trace.ofTask (.tracker index)).filterMap effect?

/-- Two systems differ in how far the trackers have come, and in that only. -/
structure SameSurroundings (setup : Setup) (s s' : System) : Prop where
  /-- The server has the same schedules. -/
  schedules : s.server.schedules = s'.server.schedules
  /-- The climate is the same. -/
  climate : s.climate setup = s'.climate setup
  /-- The same tokens are there and are cancelled, and the same is registered. -/
  books : s.roster.books = s'.roster.books
  /-- The same trackers were started. -/
  origins : s.roster.origins = s'.roster.origins
  /-- The watchers are where they are. -/
  watchers : s.watchers.map Watcher.plain = s'.watchers.map Watcher.plain
  /-- The watcher did the same. -/
  told : s.trace.ofTask (.watcher 0) = s'.trace.ofTask (.watcher 0)

namespace SameSurroundings

lemma refl (setup : Setup) (s : System) : SameSurroundings setup s s :=
  ⟨rfl, rfl, rfl, rfl, rfl, rfl⟩

lemma symm (h : SameSurroundings setup s s') : SameSurroundings setup s' s :=
  ⟨h.schedules.symm, h.climate.symm, h.books.symm, h.origins.symm, h.watchers.symm, h.told.symm⟩

lemma trans (h : SameSurroundings setup s s') (h' : SameSurroundings setup s' t) :
    SameSurroundings setup s t :=
  ⟨h.schedules.trans h'.schedules, h.climate.trans h'.climate, h.books.trans h'.books,
    h.origins.trans h'.origins, h.watchers.trans h'.watchers, h.told.trans h'.told⟩

lemma tokens (h : SameSurroundings setup s s') : s.roster.tokens = s'.roster.tokens := by
  show s.roster.books.tokens = s'.roster.books.tokens
  rw [h.books]

lemma registry (h : SameSurroundings setup s s') : s.roster.registry = s'.roster.registry := by
  show s.roster.books.registry = s'.roster.books.registry
  rw [h.books]

lemma sinksHeld (h : SameSurroundings setup s s') : s.sinksHeld = s'.sinksHeld :=
  congrArg Climate.sinksHeld h.climate

lemma seesAlike (h : SameSurroundings setup s s') :
    Watcher.SeesAlike (s.view setup Tokens.root) (s'.view setup Tokens.root) :=
  ⟨rfl, h.schedules, congrArg (·.isCancelled Tokens.root) h.tokens⟩

end SameSurroundings

/-- A step of a tracker changes nothing but how far this tracker has come, and what it did. -/
lemma surroundings_of_tracker_step (h : s.step setup (.tracker index) = some next) :
    SameSurroundings setup s next := by
  obtain ⟨u, stage, did, -, hdid, rfl⟩ := step_tracker_eq_some h
  obtain ⟨lines, hlines⟩ := failureLog_eq_logged s did
  rw [hlines]
  constructor
  · exact ((Tracker.step_cases hdid).schedules_serverAfter lines s.server).symm
  · obtain ⟨hlists, hwatches⟩ := gates_serverAfter s.server (did ++ lines.map logged)
    simp only [climate, hlists, hwatches]
  · exact (Roster.books_setStage s.roster index stage).symm
  · exact (Roster.origins_setStage s.roster index stage).symm
  · rfl
  · show _ = Trace.ofTask (s.trace ++ _) _
    rw [ofTask_append_map, if_neg (by simp), List.append_nil]

/-- What shows of a tracker after a step of its own, and of the others after it. -/
lemma exists_of_tracker_step (h : s.step setup (.tracker index) = some next) :
    ∃ u stage did, s.roster.trackers[index]? = some u ∧
      u.step (s.view setup u.token) = some (stage, did) ∧
      next.roster.trackers[index]? = some { u with stage } ∧
      next.shown index = s.shown index ++ did.filterMap effect? ∧
      ∀ other, other ≠ index → next.roster.trackers[other]? = s.roster.trackers[other]? ∧
        next.shown other = s.shown other := by
  obtain ⟨u, stage, did, hu, hdid, rfl⟩ := step_tracker_eq_some h
  obtain ⟨lines, hlines⟩ := failureLog_eq_logged s did
  refine ⟨u, stage, did, hu, hdid, ?_, ?_, fun other hother => ⟨?_, ?_⟩⟩
  · simp [hu]
  · unfold shown
    rw [ofTask_append_map, if_pos rfl, hlines, List.filterMap_append, List.filterMap_append,
      filterMap_effect?_logged, List.append_nil]
  · simp only [Roster.trackers_setStage]
    exact List.getElem?_modify_ne _ _ fun heq => hother heq.symm
  · unfold shown
    rw [ofTask_append_map, if_neg fun heq => hother (TaskId.tracker.inj heq).symm, List.append_nil]

/-! ## Who is to move -/

/-- The watcher has to wait, whatever the trackers do. -/
def IsStuck (setup : Setup) (s : System) : Prop :=
  ∀ w ∈ s.watchers, w.stage.isDraining = false ∧
    w.step (s.view setup Tokens.root) s.roster = none

/-- Whether the watcher has to wait does not depend on the climate. -/
lemma IsStuck.of_seesAlike (h : s.IsStuck setup)
    (hwatchers : s.watchers.map Watcher.plain = s'.watchers.map Watcher.plain)
    (hbooks : s.roster.books = s'.roster.books)
    (hview : Watcher.SeesAlike (s.view setup Tokens.root) (s'.view setup Tokens.root)) :
    s'.IsStuck setup := by
  intro w' hw'
  obtain ⟨w, hw, hplain⟩ : ∃ w ∈ s.watchers, w.plain = w'.plain := by
    have hmem : w'.plain ∈ s.watchers.map Watcher.plain := hwatchers ▸ List.mem_map_of_mem hw'
    exact List.mem_map.mp hmem
  obtain ⟨hstage, hnone⟩ := h w hw
  obtain rfl := Watcher.eq_of_plain_eq hplain hstage
  refine ⟨hstage, ?_⟩
  have hrel := Watcher.rel_step (s.view setup Tokens.root) hbooks hstage
  rw [hnone, Watcher.step_eq_of_seesAlike hview] at hrel
  cases h : w.step (s'.view setup Tokens.root) s'.roster with
  | none => rfl
  | some change =>
    rw [h] at hrel
    cases hrel

lemma IsStuck.congr (h : s.IsStuck setup) (hsame : SameSurroundings setup s s') :
    s'.IsStuck setup :=
  h.of_seesAlike hsame.watchers hsame.books hsame.seesAlike

/-- Whether the tracker with that token is cancelled, or may get so before new input comes in. -/
def Foresees (setup : Setup) (s : System) (token : Token) (cancelled : Bool) : Prop :=
  cancelled = s.roster.tokens.isCancelled token ∨ (cancelled = true ∧ ¬ s.IsStuck setup)

lemma Foresees.congr {token : Token} {cancelled : Bool} (h : s.Foresees setup token cancelled)
    (hsame : SameSurroundings setup s s') : s'.Foresees setup token cancelled := by
  rcases h with hnow | ⟨hlater, hstuck⟩
  · exact .inl (by rw [hnow, hsame.tokens])
  · exact .inr ⟨hlater, fun hstuck' => hstuck (hstuck'.congr hsame.symm)⟩

/-- Unless the watcher has to wait, a tracker that it may yet cancel has nothing to report. -/
def TakesTurns (setup : Setup) (s : System) : Prop :=
  ¬ s.IsStuck setup → ∀ u ∈ s.roster.trackers, s.roster.tokens.isCancelled u.token = false →
    u.stage.IsCalm s.sinksHeld

/-! ## Systems that converge -/

/-- Two systems come to the same: they differ in how far the trackers have come only, and what is in
store for each of these is the same. -/
structure Converges (setup : Setup) (s s' : System) : Prop where
  /-- The surroundings are the same. -/
  same : SameSurroundings setup s s'
  /-- The way of each tracker leads to the same, whether it is cancelled or not, if that may be. -/
  prospects : ∀ index u u', s.roster.trackers[index]? = some u →
    s'.roster.trackers[index]? = some u' → ∀ cancelled, s.Foresees setup u.token cancelled →
      Meets (Tracker.advance (s.climate setup) cancelled u.schedule)
        (u.stage.plain, s.shown index) (u'.stage.plain, s'.shown index)

/-- The trackers at the same place in two systems were started alike. -/
lemma SameSurroundings.origin_eq (h : SameSurroundings setup s s') {u u' : Tracker}
    (hu : s.roster.trackers[index]? = some u) (hu' : s'.roster.trackers[index]? = some u') :
    u.schedule = u'.schedule ∧ u.token = u'.token := by
  have horigin := congrArg (·[index]?) h.origins
  simp only [Roster.origins, List.getElem?_map, hu, hu', Option.map_some, Option.some.injEq]
    at horigin
  exact Prod.mk.inj horigin

lemma SameSurroundings.length_eq (h : SameSurroundings setup s s') :
    s.roster.trackers.length = s'.roster.trackers.length := by
  have horigins := congrArg List.length h.origins
  simpa [Roster.origins] using horigins

namespace Converges

lemma refl (setup : Setup) (s : System) : Converges setup s s := by
  refine ⟨.refl setup s, fun index u u' hu hu' _ _ => ?_⟩
  obtain rfl := Option.some.inj (hu.symm.trans hu')
  exact .refl _

lemma symm (h : Converges setup s s') : Converges setup s' s := by
  refine ⟨h.same.symm, fun index u u' hu hu' cancelled hforesees => ?_⟩
  obtain ⟨hschedule, htoken⟩ := h.same.origin_eq hu' hu
  have hmeets := h.prospects index u' u hu' hu cancelled
    (htoken ▸ hforesees.congr h.same.symm)
  rw [h.same.climate, hschedule] at hmeets
  exact hmeets.symm

/-- A step of a tracker does not lead astray. -/
theorem step (h : Converges setup s s') (hturns : s.TakesTurns setup)
    (hstep : s.step setup (.tracker index) = some next) :
    Converges setup next s' ∧ next.TakesTurns setup := by
  have hframe := surroundings_of_tracker_step hstep
  obtain ⟨u, stage, did, hu, hdid, hnext, hshown, hothers⟩ := exists_of_tracker_step hstep
  have hadvance := Tracker.advance_of_step hdid
  have hstep := Tracker.step_cases hdid
  -- as long as it may yet be cancelled it is calm
  have hcalm (hstuck : ¬ s.IsStuck setup) (hlive : s.roster.tokens.isCancelled u.token = false) :=
    hstep.calm hlive (hturns hstuck u (List.mem_of_getElem? hu) hlive)
  constructor
  · refine ⟨hframe.symm.trans h.same, fun other v v' hv hv' cancelled hforesees => ?_⟩
    have hbefore := hforesees.congr hframe.symm
    rw [← hframe.climate]
    by_cases hother : other = index
    · subst hother
      obtain rfl : { u with stage } = v := Option.some.inj (hnext.symm.trans hv)
      have hmeets := h.prospects other u v' hu hv' cancelled hbefore
      rw [hshown]
      by_cases hnow : cancelled = s.roster.tokens.isCancelled u.token
      · subst hnow
        exact hmeets.step hadvance
      · obtain ⟨rfl, hstuck⟩ := hbefore.resolve_left hnow
        have hlive : s.roster.tokens.isCancelled u.token = false :=
          Bool.eq_false_iff.mpr fun hcancel => hnow hcancel.symm
        exact (hcalm hstuck hlive).2 _ _ hmeets
    · obtain ⟨htracker, hsame⟩ := hothers other hother
      rw [hsame]
      exact h.prospects other v v' (htracker ▸ hv) hv' cancelled hbefore
  · intro hstuck v hv hlive
    have hstuck : ¬ s.IsStuck setup := fun hstuck' => hstuck (hstuck'.congr hframe)
    rw [← hframe.tokens] at hlive
    rw [← hframe.sinksHeld]
    obtain ⟨other, hother⟩ := List.mem_iff_getElem?.mp hv
    by_cases hsame : other = index
    · subst hsame
      obtain rfl : { u with stage } = v := Option.some.inj (hnext.symm.trans hother)
      exact (hcalm hstuck hlive).1
    · rw [(hothers other hsame).1] at hother
      exact hturns hstuck v (List.mem_of_getElem? hother) hlive

end Converges

/-! ## Steps of the watcher -/

/-- What a step of the only watcher leaves behind. -/
lemma WatcherRun.exists_of_watcher_step (hrun : WatcherRun setup cluster s)
    (h : s.step setup (.watcher index) = some next) :
    ∃ w change, s.watchers = [w] ∧ next.watchers = [{ w with stage := change.stage }] ∧
      w.step (s.view setup Tokens.root) s.roster = some change ∧
      next.roster = change.roster ∧ next.server = serverAfter s.server change.did ∧
      next.trace = s.trace ++ change.did.map (⟨.watcher 0, ·⟩) ∧
      next.climate setup = s.climate setup ∧ ∀ other, next.shown other = s.shown other := by
  obtain ⟨w, hw, -⟩ := hrun.exists_watcher
  obtain ⟨change, rfl, hchange, rfl⟩ := step_watcher_of_alone hw h
  refine ⟨w, change, hw, rfl, hchange, rfl, rfl, rfl, ?_, fun other => ?_⟩
  · obtain ⟨hlists, hwatches⟩ := gates_serverAfter s.server change.did
    simp only [climate, hlists, hwatches]
  · unfold shown
    rw [ofTask_append_map, if_neg (by simp), List.append_nil]

/-- A watcher that takes a step is not stuck. -/
lemma WatcherRun.not_isStuck (hrun : WatcherRun setup cluster s)
    (h : s.step setup (.watcher index) = some next) : ¬ s.IsStuck setup := by
  obtain ⟨w, change, hw, -, hchange, -⟩ := hrun.exists_of_watcher_step h
  intro hstuck
  obtain ⟨-, hnone⟩ := hstuck w (by rw [hw]; exact List.mem_cons_self)
  rw [hnone] at hchange
  cases hchange

/-- What the tracker may come to after a step of the watcher it might have come to before. -/
lemma Foresees.of_watcher_step (hrun : WatcherRun setup cluster s)
    (hstep : s.step setup (.watcher index) = some next) {token : Token} {cancelled : Bool}
    (h : next.Foresees setup token cancelled) : s.Foresees setup token cancelled := by
  have hstuck := hrun.not_isStuck hstep
  rcases h with rfl | ⟨rfl, -⟩
  · cases hbefore : s.roster.tokens.isCancelled token with
    | true =>
      have hmove : s.move setup (.step (.watcher index)) = some next := hstep
      exact .inl (by rw [isCancelled_of_move hmove hbefore, hbefore])
    | false =>
      cases hafter : next.roster.tokens.isCancelled token with
      | true => exact .inr ⟨rfl, hstuck⟩
      | false => exact .inl hbefore.symm
  · exact .inr ⟨rfl, hstuck⟩

/-- Trackers that a watcher starts have nothing to report. -/
lemma TakesTurns.watcher (h : s.TakesTurns setup) (hrun : WatcherRun setup cluster s)
    (hstep : s.step setup (.watcher index) = some next) : next.TakesTurns setup := by
  have hstuck := hrun.not_isStuck hstep
  have hforesees := @Foresees.of_watcher_step setup cluster s next index hrun hstep
  obtain ⟨w, change, -, -, hchange, hroster, -, -, hclimate, -⟩ := hrun.exists_of_watcher_step hstep
  obtain ⟨fresh, htrackers, hspawned⟩ := (Watcher.step_cases hchange).extends_roster
  intro _ u hu hlive
  rw [show next.sinksHeld = s.sinksHeld from congrArg Climate.sinksHeld hclimate]
  rw [hroster, htrackers] at hu
  rcases List.mem_append.mp hu with hu | hu
  · have hbefore : s.roster.tokens.isCancelled u.token = false := by
      rcases hforesees (.inl hlive.symm) with hbefore | ⟨hcancel, -⟩
      · exact hbefore.symm
      · cases hcancel
    exact h hstuck u hu hbefore
  · rw [hspawned u hu]
    trivial

/-- If the watcher takes a step in both systems it is the same step, and they still converge. -/
theorem Converges.watcher (h : Converges setup s s') (hrun : WatcherRun setup cluster s)
    (hrun' : WatcherRun setup cluster s') {index' : Nat}
    (hstep : s.step setup (.watcher index) = some next)
    (hstep' : s'.step setup (.watcher index') = some next') : Converges setup next next' := by
  have hforesees := @Foresees.of_watcher_step setup cluster s next index hrun hstep
  obtain ⟨w, change, hw, hwnext, hchange, hroster, hserver, htrace, hclimate, hshown⟩ :=
    hrun.exists_of_watcher_step hstep
  obtain ⟨w', change', hw', hwnext', hchange', hroster', hserver', htrace', hclimate', hshown'⟩ :=
    hrun'.exists_of_watcher_step hstep'
  have hplain : w.plain = w'.plain := by
    have hwatchers := h.same.watchers
    rw [hw, hw'] at hwatchers
    exact List.singleton_inj.mp hwatchers
  obtain ⟨hstage, ⟨hbooks, fresh, hfresh, hfresh'⟩, hdid⟩ :=
    Watcher.resembles_of_step h.same.seesAlike h.same.books hplain hchange hchange'
  have hlength := h.same.length_eq
  constructor
  · constructor
    · rw [hserver, hserver', hdid]
      exact schedules_serverAfter h.same.schedules _
    · rw [hclimate, hclimate', h.same.climate]
    · rw [hroster, hroster', hbooks]
    · have horigins := h.same.origins
      unfold Roster.origins at horigins ⊢
      rw [hroster, hroster', hfresh, hfresh', List.map_append, List.map_append, horigins]
    · rw [hwnext, hwnext']
      have hcluster : w.plain.cluster = w'.plain.cluster := by rw [hplain]
      exact congrArg (fun w => [w]) (congrArg₂ Watcher.mk hcluster hstage)
    · rw [htrace, htrace', ofTask_append_map, ofTask_append_map, h.same.told, hdid]
  · intro other u u' hu hu' cancelled hafter
    rw [hroster, hfresh] at hu
    rw [hroster', hfresh'] at hu'
    rw [hclimate, hshown, hshown']
    by_cases hother : other < s.roster.trackers.length
    · rw [List.getElem?_append_left hother] at hu
      rw [List.getElem?_append_left (hlength ▸ hother)] at hu'
      exact h.prospects other u u' hu hu' cancelled (hforesees hafter)
    · -- a tracker that is started now has not done anything in either system
      have hother' : s.roster.trackers.length ≤ other := Nat.le_of_not_lt hother
      rw [List.getElem?_append_right hother'] at hu
      rw [List.getElem?_append_right (hlength ▸ hother'), ← hlength] at hu'
      obtain rfl := Option.some.inj (hu.symm.trans hu')
      have hnothing : s.shown other = s'.shown other := by
        unfold shown
        rw [hrun.reachable.ofTask_eq_nil hother', hrun'.reachable.ofTask_eq_nil (hlength ▸ hother')]
      rw [hnothing]
      exact .refl _

/-! ## Waiting for the trackers -/

/-- A watcher that has waited for the trackers goes on once all of them have finished. -/
lemma WatcherRun.isDrained_of_step (hrun : WatcherRun setup cluster s) {w : Watcher}
    {change : WatcherChange} {view : View} (hw : s.watchers = [w])
    (hstage : w.stage.isDraining = true) (h : w.step view s.roster = some change) :
    s.roster.isDrained = true := by
  have hawaits := hrun.awaits hw
  obtain ⟨cluster, stage⟩ := w
  cases stage with
  | draining after count =>
    have hempty : s.roster.hasEmptiedSince count = true := by
      by_contra hwait
      simp [Watcher.step, hwait] at h
    exact Roster.isDrained_of_hasEmptiedSince hawaits.2 hempty
  | _ => cases hstage

lemma WatcherRun.isSome_step_of_isDrained (hrun : WatcherRun setup cluster s) (view : View)
    {w : Watcher} (hw : s.watchers = [w]) (hstage : w.stage.isDraining = true)
    (hdrained : s.roster.isDrained = true) : (w.step view s.roster).isSome = true := by
  have hawaits := hrun.awaits hw
  obtain ⟨cluster, stage⟩ := w
  cases stage with
  | draining after count =>
    have hempty : s.roster.hasEmptiedSince count = true := by
      simp [Roster.hasEmptiedSince, hawaits.1, hdrained]
    simp [Watcher.step, hempty]
  | _ => cases hstage

/-! ## Until nobody can take a step -/

/-- Only the tasks that there are can take a step. -/
lemma mem_enabled_iff {task : TaskId} : task ∈ s.enabled setup ↔ s.step setup task ≠ none := by
  unfold enabled
  rw [List.mem_filter, Option.isSome_iff_ne_none]
  refine and_iff_right_of_imp fun hstep => ?_
  obtain ⟨next, hnext⟩ := Option.ne_none_iff_exists'.mp hstep
  unfold tasks
  rw [List.mem_append, List.mem_map, List.mem_map]
  cases task with
  | watcher index =>
    obtain ⟨w, change, hw, -⟩ := step_watcher_eq_some hnext
    exact .inl ⟨index, List.mem_range.mpr (List.getElem?_eq_some_iff.mp hw).1, rfl⟩
  | tracker index =>
    obtain ⟨u, stage, did, hu, -⟩ := step_tracker_eq_some hnext
    exact .inr ⟨index, List.mem_range.mpr (List.getElem?_eq_some_iff.mp hu).1, rfl⟩

lemma isAtRest_iff : s.isAtRest setup = true ↔ ∀ task, s.step setup task = none := by
  unfold isAtRest
  rw [List.isEmpty_iff, List.eq_nil_iff_forall_not_mem]
  simp only [mem_enabled_iff, ne_eq, not_not]

/-- The tasks take steps in some order until none of them can. -/
def Settles (setup : Setup) (s t : System) : Prop :=
  ∃ order : List TaskId, s.play setup (order.map .step) = some t ∧ t.isAtRest setup = true

/-- The first step of an order, and the others. -/
lemma exists_of_play_step {task : TaskId} {order : List TaskId}
    (h : s.play setup ((task :: order).map .step) = some t) :
    ∃ mid, s.step setup task = some mid ∧ mid.play setup (order.map .step) = some t := by
  simp only [List.map_cons, play, move] at h
  split at h
  next mid hmid => exact ⟨mid, hmid, h⟩
  next => cases h

lemma Settles.of_step {task : TaskId} (h : Settles setup next t)
    (hstep : s.step setup task = some next) : Settles setup s t := by
  obtain ⟨order, hplay, hrest⟩ := h
  exact ⟨task :: order, by simp [play, move, hstep, hplay], hrest⟩

/-- Where nobody can take a step, nothing happens. -/
lemma Settles.eq_of_isAtRest (h : Settles setup s t) (hrest : s.isAtRest setup = true) : t = s := by
  obtain ⟨order, hplay, -⟩ := h
  cases order with
  | nil => exact (Option.some.inj hplay).symm
  | cons task order =>
    obtain ⟨mid, hstep, -⟩ := exists_of_play_step hplay
    rw [isAtRest_iff.mp hrest task] at hstep
    cases hstep

lemma Settles.leadsTo (h : Settles setup s t) : LeadsTo setup s t := by
  obtain ⟨order, hplay, -⟩ := h
  refine ⟨order.map .step, ?_, hplay⟩
  rw [List.filterMap_map, List.filterMap_eq_nil_iff]
  exact fun _ _ => rfl

lemma Settles.isAtRest (h : Settles setup s t) : t.isAtRest setup = true := by
  obtain ⟨order, -, hrest⟩ := h
  exact hrest

/-- Two systems are the same in all that shows. -/
structure Alike (setup : Setup) (s s' : System) : Prop where
  /-- The surroundings of the trackers are the same. -/
  same : SameSurroundings setup s s'
  /-- The trackers are at the same stages. -/
  stages : s.roster.trackers.map (·.stage.plain) = s'.roster.trackers.map (·.stage.plain)
  /-- The same shows of what they did. -/
  shown : ∀ index, s.shown index = s'.shown index

/-- What is in store for a tracker in a system where it cannot take a step. -/
lemma advance_eq_none {u : Tracker} (hu : s.roster.trackers[index]? = some u)
    (hrest : s.step setup (.tracker index) = none) :
    Tracker.advance (s.climate setup) (s.roster.tokens.isCancelled u.token) u.schedule
      u.stage.plain = none := by
  have hnone : u.step (s.view setup u.token) = none := by
    cases hstep : u.step (s.view setup u.token) with
    | none => rfl
    | some change => simp [System.step, hu, hstep] at hrest
  exact Tracker.advance_eq_none_iff.mpr hnone

namespace Converges

/-- Trackers that cannot take a step have come to the same. -/
lemma eq_of_advance_eq_none (h : Converges setup s s') {u u' : Tracker}
    (hu : s.roster.trackers[index]? = some u) (hu' : s'.roster.trackers[index]? = some u')
    (hnone : s.step setup (.tracker index) = none)
    (hnone' : s'.step setup (.tracker index) = none) :
    u.stage.plain = u'.stage.plain ∧ s.shown index = s'.shown index := by
  obtain ⟨hschedule, htoken⟩ := h.same.origin_eq hu hu'
  have hnext' := advance_eq_none hu' hnone'
  rw [← h.same.climate, ← h.same.tokens, ← hschedule, ← htoken] at hnext'
  exact Prod.mk.inj ((h.prospects index u u' hu hu' _ (.inl rfl)).eq_of_none
    (advance_eq_none hu hnone) hnext')

/-- Systems that converge and in which nobody can take a step are alike. -/
lemma alike (h : Converges setup s s') (hrun : WatcherRun setup cluster s)
    (hrun' : WatcherRun setup cluster s') (hrest : s.isAtRest setup = true)
    (hrest' : s'.isAtRest setup = true) : Alike setup s s' := by
  have hlength := h.same.length_eq
  rw [isAtRest_iff] at hrest hrest'
  have hboth (index : Nat) (hindex : index < s.roster.trackers.length) :=
    h.eq_of_advance_eq_none (List.getElem?_eq_getElem hindex)
      (List.getElem?_eq_getElem (hlength ▸ hindex)) (hrest _) (hrest' _)
  refine ⟨h.same, ?_, fun index => ?_⟩
  · refine List.ext_getElem (by simpa using hlength) fun index hindex _ => ?_
    rw [List.length_map] at hindex
    rw [List.getElem_map, List.getElem_map]
    exact (hboth index hindex).1
  · by_cases hindex : index < s.roster.trackers.length
    · exact (hboth index hindex).2
    · have hindex : s.roster.trackers.length ≤ index := Nat.le_of_not_lt hindex
      unfold shown
      rw [hrun.reachable.ofTask_eq_nil hindex, hrun'.reachable.ofTask_eq_nil (hlength ▸ hindex)]

/-- If all trackers of one system have finished, so have those of the other, once they cannot take a
step. -/
lemma isDrained (h : Converges setup s s') (hrest : s.isAtRest setup = true)
    (hdrained' : s'.roster.isDrained = true) : s.roster.isDrained = true := by
  rw [isAtRest_iff] at hrest
  rw [Roster.isDrained_iff] at hdrained' ⊢
  intro u hu
  obtain ⟨other, hother⟩ := List.mem_iff_getElem?.mp hu
  have hlt := h.same.length_eq ▸ (List.getElem?_eq_some_iff.mp hother).1
  obtain ⟨u', hother'⟩ : ∃ u', s'.roster.trackers[other]? = some u' :=
    ⟨_, List.getElem?_eq_getElem hlt⟩
  have hfinished' := hdrained' u' (List.mem_of_getElem? hother')
  have hnone' : s'.step setup (.tracker other) = none := by
    cases hnext : s'.step setup (.tracker other) with
    | none => rfl
    | some next =>
      obtain ⟨v, stage, did, hv, hdid, -⟩ := step_tracker_eq_some hnext
      obtain rfl := Option.some.inj (hother'.symm.trans hv)
      rw [(Tracker.step_cases hdid).isFinished_eq_false] at hfinished'
      cases hfinished'
  rw [Tracker.isFinished_eq_of_plain_eq (h.eq_of_advance_eq_none hother hother' (hrest _) hnone').1]
  exact hfinished'

/-- Where nobody can take a step in one system, the watcher cannot take one in the other. -/
lemma not_watcher_step (h : Converges setup s s') (hrun : WatcherRun setup cluster s)
    (hrun' : WatcherRun setup cluster s') (hrest : s.isAtRest setup = true)
    (hstep' : s'.step setup (.watcher index) = some next') : False := by
  obtain ⟨w, hw, -⟩ := hrun.exists_watcher
  obtain ⟨w', change', hw', -, hchange', -⟩ := hrun'.exists_of_watcher_step hstep'
  have hplain : w.plain = w'.plain := by
    have hwatchers := h.same.watchers
    rw [hw, hw'] at hwatchers
    exact List.singleton_inj.mp hwatchers
  have hnone : w.step (s.view setup Tokens.root) s.roster = none := by
    have hwatcher := isAtRest_iff.mp hrest (.watcher 0)
    cases hstep : w.step (s.view setup Tokens.root) s.roster with
    | none => rfl
    | some change => simp [System.step, hw, hstep] at hwatcher
  cases hstage : w.stage.isDraining with
  | false =>
    obtain rfl := Watcher.eq_of_plain_eq hplain hstage
    have hrel := Watcher.rel_step (s.view setup Tokens.root) h.same.books hstage
    rw [hnone, Watcher.step_eq_of_seesAlike h.same.seesAlike, hchange'] at hrel
    cases hrel
  | true =>
    -- if it has waited long enough there, all trackers have finished here as well
    have hdrained' := hrun'.isDrained_of_step hw' (Watcher.isDraining_eq hplain ▸ hstage) hchange'
    have hready := hrun.isSome_step_of_isDrained (s.view setup Tokens.root) hw hstage
      (h.isDrained hrest hdrained')
    rw [hnone] at hready
    cases hready

/-- Whatever the orders in which the tasks take their steps, they lead to systems that converge. -/
theorem of_settles (h : Converges setup s s') (hrun : WatcherRun setup cluster s)
    (hrun' : WatcherRun setup cluster s') (hturns : s.TakesTurns setup)
    (hturns' : s'.TakesTurns setup) (hsettles : Settles setup s t)
    (hsettles' : Settles setup s' t') : Converges setup t t' := by
  obtain ⟨order, hplay, hrest⟩ := hsettles
  obtain ⟨order', hplay', hrest'⟩ := hsettles'
  -- either side does the steps of its trackers alone, and the watcher takes its steps in both
  induction order generalizing s s' order' with
  | nil =>
    obtain rfl : s = t := Option.some.inj hplay
    induction order' generalizing s' with
    | nil =>
      obtain rfl : s' = t' := Option.some.inj hplay'
      exact h
    | cons task' rest' ih' =>
      obtain ⟨mid', hstep', hmore'⟩ := exists_of_play_step hplay'
      have hmid' : WatcherRun setup cluster mid' := hrun'.leadsTo (.of_step hstep')
      cases task' with
      | watcher index => exact (h.not_watcher_step hrun hrun' hrest hstep').elim
      | tracker index =>
        obtain ⟨hconverges, hturns'⟩ := h.symm.step hturns' hstep'
        exact ih' hconverges.symm hmid' hturns' hmore'
  | cons task rest ih =>
    obtain ⟨mid, hstep, hmore⟩ := exists_of_play_step hplay
    have hmid : WatcherRun setup cluster mid := hrun.leadsTo (.of_step hstep)
    cases task with
    | tracker index =>
      obtain ⟨hconverges, hturns⟩ := h.step hturns hstep
      exact ih hconverges hmid hrun' hturns hturns' hmore order' hplay'
    | watcher index =>
      induction order' generalizing s' with
      | nil =>
        obtain rfl : s' = t' := Option.some.inj hplay'
        exact (h.symm.not_watcher_step hrun' hrun hrest' hstep).elim
      | cons task' rest' ih' =>
        obtain ⟨mid', hstep', hmore'⟩ := exists_of_play_step hplay'
        have hmid' : WatcherRun setup cluster mid' := hrun'.leadsTo (.of_step hstep')
        cases task' with
        | watcher index' =>
          exact ih (h.watcher hrun hrun' hstep hstep') hmid hmid' (hturns.watcher hrun hstep)
            (hturns'.watcher hrun' hstep') hmore rest' hmore'
        | tracker index' =>
          obtain ⟨hconverges, hturns'⟩ := h.symm.step hturns' hstep'
          exact ih' hconverges.symm hmid' hturns' hmore'

end Converges

end System

end BackupMonitor
