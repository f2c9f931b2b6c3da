import BackupMonitor.Proofs.RosterInvariant

/-!
# A watcher goes by the books

The books of a roster are its tokens and its registry. Operations on the roster look at nothing
else, and the trackers that they start come after those that are there: `Roster.onto` puts an
outcome behind the trackers of another roster. So a watcher takes the same step with any roster that
has the same books (`Watcher.resembles_of_step`), unless it waits for the trackers to finish.
-/

namespace BackupMonitor

open Occurrence

namespace Roster

/-- The tokens and the registry, without any tracker. -/
def books (r : Roster) : Roster where
  tokens := r.tokens
  registry := r.registry

/-- The roster `r` with the books of `after`, and with the trackers of `after` behind its own. -/
def onto (after r : Roster) : Roster :=
  { r with
    tokens := after.tokens
    registry := after.registry
    trackers := r.trackers ++ after.trackers }

lemma books_onto (r : Roster) : r.books.onto r = r := by
  unfold onto books
  rw [List.append_nil]

variable {after r r' : Roster}

/-! ## The operations -/

lemma start_onto (after r : Roster) (schedule : String) :
    (after.onto r).start schedule =
      ((after.start schedule).1.onto r, (after.start schedule).2) := by
  have hanswer : (after.onto r).registry.startIfAbsent (after.onto r).tokens schedule Tokens.root =
    after.registry.startIfAbsent after.tokens schedule Tokens.root := rfl
  simp only [start, hanswer]
  split
  · rfl
  · simp only [onto, List.append_assoc]

lemma startIfTargeting_onto (after r : Roster) (cluster name : String) (schedule : Object) :
    (after.onto r).startIfTargeting cluster name schedule =
      ((after.startIfTargeting cluster name schedule).1.onto r,
        (after.startIfTargeting cluster name schedule).2) := by
  simp only [startIfTargeting]
  split
  · rw [start_onto]
  · rfl

lemma enlist_onto (after r : Roster) (cluster : String) (schedule : Object) :
    (after.onto r).enlist cluster schedule =
      ((enlist cluster after schedule).1.onto r, (enlist cluster after schedule).2) := by
  unfold enlist
  split
  · rfl
  · exact startIfTargeting_onto after r cluster _ schedule

/-- A listing goes by the books. -/
lemma enlistAll_onto (after r : Roster) (cluster : String) (schedules : List Object) :
    (after.onto r).enlistAll cluster schedules =
      ((enlistAll cluster after schedules).1.onto r, (enlistAll cluster after schedules).2) := by
  induction schedules generalizing after with
  | nil => rfl
  | cons schedule rest ih =>
    rw [enlistAll_cons, enlistAll_cons, enlist_onto, ih]

/-- A change of a schedule goes by the books. -/
lemma consider_onto (after r : Roster) (cluster : String) (event : Event) :
    (after.onto r).consider cluster event =
      ((after.consider cluster event).1.onto r, (after.consider cluster event).2) := by
  unfold consider
  split
  · rfl
  · split
    · exact startIfTargeting_onto after r cluster _ _
    · split
      · exact startIfTargeting_onto after r cluster _ _
      · rfl
    · rfl

/-- Two outcomes are the same in the books and start the same trackers, behind those of `r` and of
`r'`. -/
structure StartsAlike (r r' after after' : Roster) : Prop where
  /-- The books are the same. -/
  books : after.books = after'.books
  /-- The same trackers are started. -/
  fresh : ∃ fresh, after.trackers = r.trackers ++ fresh ∧ after'.trackers = r'.trackers ++ fresh

namespace StartsAlike

lemma of_trackers_eq {after' : Roster} (hbooks : after.books = after'.books)
    (h : after.trackers = r.trackers) (h' : after'.trackers = r'.trackers) :
    StartsAlike r r' after after' :=
  ⟨hbooks, [], by rw [h, List.append_nil], by rw [h', List.append_nil]⟩

lemma onto (after r r' : Roster) : StartsAlike r r' (after.onto r) (after.onto r') :=
  ⟨rfl, after.trackers, rfl, rfl⟩

/-- Operations that depend on the books only. -/
lemma of_onto (change : Roster → Change)
    (honto : ∀ after r, change (after.onto r) = ((change after).1.onto r, (change after).2))
    (hbooks : r.books = r'.books) :
    StartsAlike r r' (change r).1 (change r').1 ∧ (change r).2 = (change r').2 := by
  have hr := honto r.books r
  have hr' := honto r.books r'
  rw [books_onto] at hr
  rw [hbooks, books_onto] at hr'
  rw [hr, hr', hbooks]
  exact ⟨.onto _ r r', rfl⟩

end StartsAlike

lemma books_noteEmptied (r after : Roster) : (r.noteEmptied after).books = after.books := by
  obtain ⟨emptied, h⟩ := exists_noteEmptied_eq r after
  rw [h]
  rfl

lemma books_setStage (r : Roster) (index : Nat) (stage : TrackerStage) :
    (r.setStage index stage).books = r.books :=
  books_noteEmptied r _

end Roster

/-! ## The steps of a watcher -/

/-- A stage without how often the roster had been empty. -/
def WatcherStage.plain : WatcherStage → WatcherStage
  | .draining next _ => .draining next 0
  | stage => stage

/-- Whether the watcher waits for all trackers to finish. -/
def WatcherStage.isDraining : WatcherStage → Bool
  | .draining .. => true
  | _ => false

@[simp] lemma WatcherStage.isDraining_plain (stage : WatcherStage) :
    stage.plain.isDraining = stage.isDraining := by
  cases stage <;> rfl

lemma WatcherStage.plain_of_isDraining {stage : WatcherStage} (h : stage.isDraining = false) :
    stage.plain = stage := by
  cases stage with
  | draining => cases h
  | _ => rfl

namespace Watcher

/-- A watcher without how often the roster had been empty. -/
def plain (w : Watcher) : Watcher :=
  { w with stage := w.stage.plain }

/-- What comes in over the watch shows in the plain watcher, too. -/
lemma plain_updateFeed (w : Watcher) (f : Feed → Feed) :
    (w.updateFeed f).plain = w.plain.updateFeed f := by
  obtain ⟨cluster, stage⟩ := w
  cases stage <;> rfl

variable {view view' : View} {r r' : Roster} {w w' : Watcher} {change change' : WatcherChange}

/-- Two steps of a watcher are the same, with the rosters `r` and `r'` before. -/
structure Resembles (r r' : Roster) (change change' : WatcherChange) : Prop where
  /-- The watcher comes to the same stage. -/
  stage : change.stage.plain = change'.stage.plain
  /-- It starts the same trackers, and leaves the same books behind. -/
  roster : Roster.StartsAlike r r' change.roster change'.roster
  /-- It does the same. -/
  did : change.did = change'.did

/-- What a watcher sees when it takes a step: nothing of the backups, the sinks and the past. -/
structure SeesAlike (view view' : View) : Prop where
  /-- The setup is the same. -/
  setup : view.setup = view'.setup
  /-- The server has the same schedules. -/
  schedules : view.server.schedules = view'.server.schedules
  /-- The watcher is cancelled in both or in none. -/
  cancelled : view.cancelled = view'.cancelled

/-- A watcher takes the same step where it sees the same. -/
lemma step_eq_of_seesAlike (h : SeesAlike view view') (r : Roster) (w : Watcher) :
    w.step view r = w.step view' r := by
  obtain ⟨setup, ⟨schedules, backups⟩, held, cancelled, trace⟩ := view
  obtain ⟨setup', ⟨schedules', backups'⟩, held', cancelled', trace'⟩ := view'
  obtain ⟨hsetup, hschedules, hcancelled⟩ := h
  simp only at hsetup hschedules hcancelled
  subst hsetup hschedules hcancelled
  rfl

/-- Whoever stops all trackers goes by the books. -/
lemma resembles_drain (hbooks : r.books = r'.books) (next : AfterDrain) (did : List Occurrence) :
    Resembles r r' (drain r next did) (drain r' next did) := by
  have hstopped : r.stopAll.1.books = r'.stopAll.1.books ∧ r.stopAll.2 = r'.stopAll.2 := by
    obtain ⟨tokens, registry, trackers, closed, emptied⟩ := r
    obtain ⟨tokens', registry', trackers', closed', emptied'⟩ := r'
    simp only [Roster.books, Roster.mk.injEq] at hbooks
    obtain ⟨rfl, rfl, -⟩ := hbooks
    exact ⟨rfl, rfl⟩
  refine ⟨rfl, .of_trackers_eq ?_ (Roster.trackers_close _) (Roster.trackers_close _), ?_⟩
  · show r.stopAll.1.close.books = r'.stopAll.1.close.books
    unfold Roster.close
    rw [Roster.books_noteEmptied, Roster.books_noteEmptied]
    exact hstopped.1
  · exact congrArg (did ++ ·) hstopped.2

/-- Changes with the same books resemble each other. -/
lemma resembles_of_eq (hbooks : r.books = r'.books) (stage : WatcherStage)
    (did : List Occurrence) :
    Resembles r r' { stage, roster := r, did } { stage, roster := r', did } :=
  ⟨rfl, .of_trackers_eq hbooks rfl rfl, rfl⟩

/-- A watcher that does not wait for the trackers takes the same step with every roster that has the
same books, or none with any. -/
theorem rel_step (view : View) (hbooks : r.books = r'.books)
    (hstage : w.stage.isDraining = false) :
    Option.Rel (Resembles r r') (w.step view r) (w.step view r') := by
  obtain ⟨cluster, stage⟩ := w
  -- most stages are left by way of the token
  have hcancellable {o o' : Option WatcherChange} (h : Option.Rel (Resembles r r') o o') :
      Option.Rel (Resembles r r')
        (if view.cancelled then some (drain r (.finish none) []) else o)
        (if view.cancelled then some (drain r' (.finish none) []) else o') := by
    split
    · exact .some (resembles_drain hbooks _ _)
    · exact h
  cases stage with
  | spawned => exact .some (resembles_of_eq hbooks _ _)
  | ready => exact hcancellable (.some (resembles_of_eq hbooks _ _))
  | listing =>
    refine hcancellable ?_
    simp only [proceed]
    split
    · exact .none
    · exact .some (resembles_drain hbooks _ _)
    · next listing _ =>
      obtain ⟨hroster, hdid⟩ := Roster.StartsAlike.of_onto (·.enlistAll cluster listing.items)
        (fun after r => Roster.enlistAll_onto after r cluster listing.items) hbooks
      exact .some ⟨rfl, hroster, congrArg (_ :: ·) hdid⟩
  | listed cursor => exact hcancellable (.some (resembles_of_eq hbooks _ _))
  | opening cursor =>
    refine hcancellable ?_
    simp only [proceed]
    split
    · exact .none
    · exact .some (resembles_drain hbooks _ _)
    · exact .some (resembles_of_eq hbooks _ _)
  | following feed =>
    refine hcancellable ?_
    simp only [proceed]
    split
    · next event queue _ =>
      obtain ⟨hroster, hdid⟩ := Roster.StartsAlike.of_onto (·.consider cluster event)
        (fun after r => Roster.consider_onto after r cluster event) hbooks
      exact .some ⟨rfl, hroster, congrArg (_ :: ·) hdid⟩
    · split
      · exact .some (resembles_drain hbooks _ _)
      · exact .none
  | draining next count => cases hstage
  | finished error => exact .none

lemma isDraining_eq (hplain : w.plain = w'.plain) : w.stage.isDraining = w'.stage.isDraining := by
  have h : w.plain.stage.isDraining = w'.plain.stage.isDraining := by rw [hplain]
  exact (w.stage.isDraining_plain.symm.trans h).trans w'.stage.isDraining_plain

/-- Only the stage of a watcher that waits for the trackers says more than its plain form. -/
lemma eq_of_plain_eq (hplain : w.plain = w'.plain) (hstage : w.stage.isDraining = false) :
    w = w' := by
  have hstage' := (isDraining_eq hplain).symm.trans hstage
  obtain ⟨cluster, stage⟩ := w
  obtain ⟨cluster', stage'⟩ := w'
  obtain ⟨rfl, hsame⟩ : cluster = cluster' ∧ stage.plain = stage'.plain := by
    simpa [plain] using hplain
  rw [WatcherStage.plain_of_isDraining hstage, WatcherStage.plain_of_isDraining hstage'] at hsame
  exact congrArg (Watcher.mk cluster) hsame

/-- A watcher takes the same step with every roster that has the same books. -/
theorem resembles_of_step (hview : SeesAlike view view') (hbooks : r.books = r'.books)
    (hplain : w.plain = w'.plain) (h : w.step view r = some change)
    (h' : w'.step view' r' = some change') : Resembles r r' change change' := by
  cases hstage : w.stage.isDraining with
  | false =>
    obtain rfl := eq_of_plain_eq hplain hstage
    have hrel := rel_step view hbooks hstage
    rw [h, step_eq_of_seesAlike hview, h'] at hrel
    cases hrel with
    | some hresembles => exact hresembles
  | true =>
    obtain ⟨cluster, stage⟩ := w
    obtain ⟨cluster', stage'⟩ := w'
    obtain ⟨-, hsame⟩ : cluster = cluster' ∧ stage.plain = stage'.plain := by
      simpa [plain] using hplain
    cases stage with
    | draining next count =>
      cases stage' with
      | draining next' count' =>
        obtain ⟨rfl, -⟩ := WatcherStage.draining.inj hsame
        -- both have waited for the same purpose
        simp only [step] at h h'
        split at h
        next =>
          split at h'
          next =>
            obtain rfl := Option.some.inj h
            obtain rfl := Option.some.inj h'
            cases next with
            | relist => exact ⟨rfl, .of_trackers_eq hbooks rfl rfl, rfl⟩
            | finish error => exact ⟨rfl, .of_trackers_eq hbooks rfl rfl, rfl⟩
          next => cases h'
        next => cases h
      | _ => cases hsame
    | _ => cases hstage

end Watcher

end BackupMonitor
