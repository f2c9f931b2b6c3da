import BackupMonitor.Proofs.Mirror

/-!
# A watcher with and without other schedules

A watcher that gets no events about other schedules, and does not list them, does to a schedule what
it would do otherwise: every step of a watcher is taken without them too, or there is nothing to do
for it (`Watcher.Step.mirrors`). Where it waits, the other one waits as well, or has only to finish
(`Watcher.narrows_of_step_eq_none`).
-/

namespace BackupMonitor

/-! ## What the server has -/

/-- What the server has of schedules, and what it has if the others are left out. -/
structure Shelf.Narrows (name : String) (shelf shelf' : Shelf) : Prop where
  /-- Lists are answered alike. -/
  lists : shelf.lists = shelf'.lists
  /-- Watches are answered alike. -/
  watches : shelf.watches = shelf'.watches
  /-- The other schedules are left out. -/
  items : shelf'.items = shelf.items.filter (·.isAbout name .scheduledBackup)

lemma Shelf.Narrows.answer_eq {name : String} {view view' : View}
    (h : view.server.schedules.Narrows name view'.server.schedules) {α : Type} (verb : Verb)
    (success : α) :
    view.answer verb .scheduledBackup success = view'.answer verb .scheduledBackup success := by
  refine View.answer_eq_of_gate ?_ success
  cases verb with
  | list => exact h.lists
  | watch => exact h.watches

lemma Shelf.Narrows.updateGate {name : String} {shelf shelf' : Shelf}
    (h : shelf.Narrows name shelf') (verb : Verb) (f : Gate → Gate) :
    (shelf.updateGate verb f).Narrows name (shelf'.updateGate verb f) := by
  cases verb with
  | list => exact ⟨congrArg f h.lists, h.watches, h.items⟩
  | watch => exact ⟨h.lists, congrArg f h.watches, h.items⟩

/-! ## The stages of a watcher -/

/-- Whether the watcher has yet to take in a listing. -/
def WatcherStage.isBeforeListing : WatcherStage → Bool
  | .spawned => true
  | .ready => true
  | .listing => true
  | _ => false

/-- The stage of a watcher before its watch ends, and its stage if nothing comes in about other
schedules. It may have finished by then while trackers of others are still waited for. -/
inductive WatcherStage.Narrows (name : String) : WatcherStage → WatcherStage → Prop where
  /-- It has not run yet. -/
  | spawned : Narrows name .spawned .spawned
  /-- It is about to list. -/
  | ready : Narrows name .ready .ready
  /-- It waits for its list. -/
  | listing : Narrows name .listing .listing
  /-- It is about to watch, from any cursor. -/
  | listed (cursor cursor' : String) : Narrows name (.listed cursor) (.listed cursor')
  /-- It waits for its watch, from any cursor. -/
  | opening (cursor cursor' : String) : Narrows name (.opening cursor) (.opening cursor')
  /-- It waits for an event. -/
  | following (feed : Feed) :
      Narrows name (.following feed) (.following (feed.only name .scheduledBackup))
  /-- It waits for the trackers before it finishes. -/
  | draining (error : Option TaskError) (count count' : Nat) :
      Narrows name (.draining (.finish error) count) (.draining (.finish error) count')
  /-- It still waits, for trackers of others. -/
  | ahead (error : Option TaskError) (count : Nat) :
      Narrows name (.draining (.finish error) count) (.finished error)
  /-- It has finished. -/
  | finished (error : Option TaskError) : Narrows name (.finished error) (.finished error)

lemma WatcherStage.narrows_of_isBeforeListing {stage : WatcherStage}
    (h : stage.isBeforeListing = true) (name : String) : stage.Narrows name stage := by
  cases stage with
  | spawned => exact .spawned
  | ready => exact .ready
  | listing => exact .listing
  | _ => cases h

/-- Before a listing all trackers have finished. -/
lemma WatcherStage.Awaits.isDrained {stage : WatcherStage} {r : Roster} (h : stage.Awaits r)
    (hstage : stage.isBeforeListing = true) : r.isDrained = true := by
  cases stage with
  | spawned => exact h
  | ready => exact h
  | listing => exact h
  | _ => cases hstage

/-- What comes in over the watch is narrowed. -/
lemma WatcherStage.Narrows.updateFeed {name : String} {w w' : Watcher} {f f' : Feed → Feed}
    (hf : ∀ feed, (f feed).only name .scheduledBackup = f' (feed.only name .scheduledBackup))
    (h : w.stage.Narrows name w'.stage) :
    (w.updateFeed f).stage.Narrows name (w'.updateFeed f').stage := by
  obtain ⟨cluster, stage⟩ := w
  obtain ⟨cluster', stage'⟩ := w'
  cases h with
  | spawned => exact .spawned
  | ready => exact .ready
  | listing => exact .listing
  | listed => exact .listed _ _
  | opening => exact .opening _ _
  | following feed =>
    show Narrows name _ (.following (f' (feed.only name .scheduledBackup)))
    rw [← hf]
    exact .following _
  | draining => exact .draining _ _ _
  | ahead => exact .ahead _ _
  | finished => exact .finished _

/-! ## The steps of a watcher -/

namespace Watcher

variable {name cluster : String} {before : Nat} {view view' : View} {r r' : Roster}
  {stage stage' : WatcherStage}  {change : WatcherChange}

/-- Most stages are left by way of the token. -/
lemma step_of_isCancellable (h : stage.isCancellable = true) :
    step view r { cluster, stage } =
      if view.cancelled then some (drain r (.finish none) [])
      else proceed view r cluster stage := by
  cases stage with
  | spawned => cases h
  | draining => cases h
  | finished => cases h
  | _ => rfl

/-- Every step of a watcher is taken without the events about other schedules too, or it takes such
an event or finishes later, unless its watch ends. -/
theorem Step.mirrors (h : Step view r cluster stage change) (view' : View)
    (hshelf : view.server.schedules.Narrows name view'.server.schedules)
    (hcancelled : view.cancelled = view'.cancelled) (hstage : stage.Narrows name stage')
    (hmirrors : r.Mirrors name before r') (hawaits : stage.Awaits r) (hawaits' : stage'.Awaits r') :
    Occurrence.sawEnd .scheduledBackup ∈ change.did ∨
      change.stage.Narrows name stage' ∧ change.roster.Mirrors name before r' ∨
      ∃ change', step view' r' { cluster, stage := stage' } = some change' ∧
        change.stage.Narrows name change'.stage ∧
        change.roster.Mirrors name before change'.roster := by
  have hproceed (hlive : view.cancelled = false) (hcancellable : stage'.isCancellable = true) :
      step view' r' { cluster, stage := stage' } = proceed view' r' cluster stage' := by
    rw [step_of_isCancellable hcancellable, ← hcancelled, hlive]
    rfl
  cases h with
  | begin =>
    cases hstage
    exact .inr (.inr ⟨_, rfl, .ready, hmirrors⟩)
  | relist => cases hstage
  | @finish error count hempty =>
    cases hstage with
    | draining _ _ count' =>
      -- all trackers have finished there as well
      have hdrained := hmirrors.isDrained (Roster.isDrained_of_hasEmptiedSince hawaits.2 hempty)
      have hempty' : r'.hasEmptiedSince count' = true := by
        simp [Roster.hasEmptiedSince, hawaits'.1, hdrained]
      refine .inr (.inr ⟨afterDrain r' (.finish error), ?_, .finished error, hmirrors.reopen⟩)
      simp only [step, hempty', if_true]
    | ahead =>
      exact .inr (.inl ⟨.finished error, hmirrors.of_trackers_eq
        (Roster.isKept_isAccounted.reopen hmirrors.accounted) hmirrors.accounted' rfl rfl
        hmirrors.root hmirrors.wanted⟩)
  | cancel hcancel hcancellable =>
    refine .inr (.inr ⟨drain r' (.finish none) [], ?_, .draining none _ _, hmirrors.drain _ _ _ _⟩)
    rw [step_of_isCancellable (by cases hstage <;> first | rfl | cases hcancellable), ← hcancelled,
      hcancel]
    rfl
  | callList hlive =>
    cases hstage
    exact .inr (.inr ⟨_, hproceed hlive rfl, .listing, hmirrors⟩)
  | @listFails e hlive hanswer =>
    cases hstage
    rw [hshelf.answer_eq] at hanswer
    refine .inr (.inr ⟨drain r' (.finish (some e)) [.refused e], ?_, .draining (some e) _ _,
      hmirrors.drain _ _ _ _⟩)
    rw [hproceed hlive rfl]
    simp only [proceed, View.answer_of_error hanswer]
  | listed hlive hanswer =>
    cases hstage
    rw [hshelf.answer_eq] at hanswer
    have hroster := hmirrors.enlistAll cluster (view.listing .scheduledBackup).items
    rw [show (view.listing .scheduledBackup).items.filter (·.isAbout name .scheduledBackup) =
      (view'.listing .scheduledBackup).items from hshelf.items.symm] at hroster
    refine .inr (.inr ⟨{
        stage := .listed (view'.listing .scheduledBackup).cursor
        roster := (r'.enlistAll cluster (view'.listing .scheduledBackup).items).1
        did := .listed .scheduledBackup (view'.listing .scheduledBackup) ::
          (r'.enlistAll cluster (view'.listing .scheduledBackup).items).2 },
      ?_, .listed _ _, hroster⟩)
    rw [hproceed hlive rfl]
    simp only [proceed, View.answer_of_ok hanswer]
  | callWatch hlive =>
    cases hstage
    exact .inr (.inr ⟨_, hproceed hlive rfl, .opening _ _, hmirrors⟩)
  | @watchFails _ e hlive hanswer =>
    cases hstage
    rw [hshelf.answer_eq] at hanswer
    refine .inr (.inr ⟨drain r' (.finish (some e)) [.refused e], ?_, .draining (some e) _ _,
      hmirrors.drain _ _ _ _⟩)
    rw [hproceed hlive rfl]
    simp only [proceed, hanswer]
  | opened hlive hanswer =>
    cases hstage
    rw [hshelf.answer_eq] at hanswer
    refine .inr (.inr ⟨{ stage := .following {}, roster := r', did := [.opened .scheduledBackup] },
      ?_, .following {}, hmirrors⟩)
    rw [hproceed hlive rfl]
    simp only [proceed, hanswer]
  | @take feed event queue hlive hqueue =>
    cases hstage
    cases habout : event.object.isAbout name .scheduledBackup with
    | true =>
      refine .inr (.inr ⟨{
          stage := .following (Feed.only name .scheduledBackup { feed with queue })
          roster := (r'.consider cluster event).1
          did := .took event :: (r'.consider cluster event).2 },
        ?_, .following _, hmirrors.consider cluster habout⟩)
      rw [hproceed hlive rfl]
      simp only [proceed, Feed.queue_only_of_cons hqueue habout]
      rfl
    | false =>
      refine .inr (.inl ⟨?_, hmirrors.consider_other cluster habout⟩)
      rw [Feed.only_of_cons hqueue habout]
      exact .following _
  | sawEnd hlive hqueue hclosed => exact .inl List.mem_cons_self

/-- Where a watcher cannot take a step, all that it can do without the events about other schedules
is finish. -/
theorem narrows_of_step_eq_none (hnone : step view r { cluster, stage } = none)
    (h : step view' r' { cluster, stage := stage' } = some change)
    (hshelf : view.server.schedules.Narrows name view'.server.schedules)
    (hcancelled : view.cancelled = view'.cancelled) (hstage : stage.Narrows name stage')
    (hmirrors : r.Mirrors name before r') :
    stage.Narrows name change.stage ∧ r.Mirrors name before change.roster := by
  -- a stage that is left by way of the token waits for something else
  have hwaits (hcancellable : stage.isCancellable = true) :
      view'.cancelled = false ∧ proceed view r cluster stage = none := by
    rw [step_of_isCancellable hcancellable] at hnone
    split at hnone
    next => cases hnone
    next hlive => exact ⟨by simpa [← hcancelled] using hlive, hnone⟩
  cases hstage with
  | spawned => cases hnone
  | ready => cases (hwaits rfl).2
  | listed cursor cursor' => cases (hwaits rfl).2
  | listing =>
    obtain ⟨hlive, hproceed⟩ := hwaits rfl
    simp only [proceed] at hproceed
    split at hproceed
    next hanswer =>
      rw [hshelf.answer_eq] at hanswer
      rw [step_of_isCancellable rfl, hlive] at h
      simp [proceed, View.answer_of_none hanswer] at h
    next => cases hproceed
    next => cases hproceed
  | opening cursor cursor' =>
    obtain ⟨hlive, hproceed⟩ := hwaits rfl
    simp only [proceed] at hproceed
    split at hproceed
    next hanswer =>
      rw [hshelf.answer_eq] at hanswer
      rw [step_of_isCancellable rfl, hlive] at h
      simp [proceed, hanswer] at h
    next => cases hproceed
    next => cases hproceed
  | following feed =>
    obtain ⟨hlive, hproceed⟩ := hwaits rfl
    simp only [proceed] at hproceed
    split at hproceed
    next => cases hproceed
    next hqueue =>
      split at hproceed
      next => cases hproceed
      next hopen =>
        rw [step_of_isCancellable rfl, hlive] at h
        simp [proceed, Feed.only, hqueue, hopen] at h
  | draining error count count' =>
    simp only [step] at h
    split at h
    next =>
      obtain rfl := Option.some.inj h
      exact ⟨.ahead error count, hmirrors.of_trackers_eq hmirrors.accounted
        (Roster.isKept_isAccounted.reopen hmirrors.accounted') rfl rfl hmirrors.root
        hmirrors.wanted⟩
    next => cases h
  | ahead error count => cases h
  | finished error => cases h

end Watcher

end BackupMonitor
