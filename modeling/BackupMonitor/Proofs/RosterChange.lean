import BackupMonitor.Proofs.Step

/-!
# What an operation on the roster leaves behind

Whatever a watcher does to the roster, the trackers that are there stay as they are, and what it
does is logged or is the start of a tracker: `Roster.Keeps`, proved of each operation, and of the
steps of a watcher from that. `Watcher.Does` lists what else the steps of a watcher do.
-/

namespace BackupMonitor

/-- Whether this is something that an operation on the roster does. -/
def Occurrence.isUpkeep : Occurrence → Bool
  | logged _ => true
  | startedTracker _ => true
  | _ => false

lemma Occurrence.isUpkeep_of_mem_logged {lines : List Log.Line} {what : Occurrence}
    (h : what ∈ lines.map logged) : what.isUpkeep = true := by
  obtain ⟨line, -, rfl⟩ := List.mem_map.mp h
  rfl

namespace Roster

/-- Every tracker of `r` is in `after` at its place and as it was; the others have not run yet. -/
def Extends (r after : Roster) : Prop :=
  ∃ fresh, after.trackers = r.trackers ++ fresh ∧ ∀ t ∈ fresh, t.stage = .spawned

namespace Extends

variable {r s after : Roster}

/-- The same trackers are an extension by none. -/
lemma of_eq (h : after.trackers = r.trackers) : r.Extends after :=
  ⟨[], by rw [h, List.append_nil], by simp⟩

/-- Extensions follow one another. -/
lemma trans (h : r.Extends s) (h' : s.Extends after) : r.Extends after := by
  obtain ⟨xs, hxs, hfresh⟩ := h
  obtain ⟨ys, hys, hfresh'⟩ := h'
  refine ⟨xs ++ ys, by rw [hys, hxs, List.append_assoc], fun t ht => ?_⟩
  rcases List.mem_append.mp ht with ht | ht
  · exact hfresh t ht
  · exact hfresh' t ht

end Extends

/-- The operation keeps the trackers, and does nothing but upkeep. -/
structure Keeps (r : Roster) (change : Change) : Prop where
  /-- It keeps the trackers. -/
  extends_fst : r.Extends change.1
  /-- It does nothing but upkeep. -/
  upkeep : ∀ what ∈ change.2, what.isUpkeep = true

namespace Keeps

variable {r : Roster} {change next : Change}

lemma refl (r : Roster) : r.Keeps (r, []) := ⟨.of_eq rfl, by simp⟩

/-- An operation that is followed by another one. -/
lemma trans (h : r.Keeps change) (h' : change.1.Keeps next) :
    r.Keeps (next.1, change.2 ++ next.2) := by
  refine ⟨h.extends_fst.trans h'.extends_fst, fun what hwhat => ?_⟩
  rcases List.mem_append.mp hwhat with hwhat | hwhat
  · exact h.upkeep what hwhat
  · exact h'.upkeep what hwhat

/-- An operation before which something is logged. -/
lemma logged (h : r.Keeps change) (lines : List Log.Line) :
    r.Keeps (change.1, lines.map .logged ++ change.2) := by
  refine ⟨h.extends_fst, fun what hwhat => ?_⟩
  rcases List.mem_append.mp hwhat with hwhat | hwhat
  · exact Occurrence.isUpkeep_of_mem_logged hwhat
  · exact h.upkeep what hwhat

/-- What is no upkeep was not done. -/
lemma not_mem (h : r.Keeps change) {what : Occurrence} (hwhat : what.isUpkeep = false) :
    what ∉ change.2 := fun hmem => by
  rw [h.upkeep what hmem] at hwhat
  cases hwhat

end Keeps

/-! ## The operations -/

@[simp] lemma trackers_noteEmptied (r after : Roster) :
    (r.noteEmptied after).trackers = after.trackers := by
  unfold noteEmptied
  split <;> rfl

@[simp] lemma trackers_setStage (r : Roster) (index : Nat) (stage : TrackerStage) :
    (r.setStage index stage).trackers = r.trackers.modify index ({ · with stage }) := by
  unfold setStage
  rw [trackers_noteEmptied]

@[simp] lemma trackers_close (r : Roster) : r.close.trackers = r.trackers := by
  unfold close
  rw [trackers_noteEmptied]

/-- Starting a tracker keeps those that are there. -/
lemma keeps_start (r : Roster) (schedule : String) : r.Keeps (r.start schedule) := by
  simp only [start]
  split
  · exact .refl r
  · refine ⟨⟨[_], rfl, by simp⟩, fun what hwhat => ?_⟩
    rcases List.mem_append.mp hwhat with hwhat | hwhat
    · exact Occurrence.isUpkeep_of_mem_logged hwhat
    · rw [List.mem_singleton.mp hwhat]
      rfl

/-- Stopping a tracker keeps all of them. -/
lemma keeps_stop (r : Roster) (schedule reason : String) :
    r.Keeps (r.stop schedule reason) :=
  ⟨.of_eq rfl, fun _ hwhat => Occurrence.isUpkeep_of_mem_logged hwhat⟩

lemma keeps_stopAll (r : Roster) : r.Keeps r.stopAll :=
  ⟨.of_eq rfl, fun _ hwhat => Occurrence.isUpkeep_of_mem_logged hwhat⟩

lemma keeps_startIfTargeting (r : Roster) (cluster name : String) (schedule : Object) :
    r.Keeps (r.startIfTargeting cluster name schedule) := by
  simp only [startIfTargeting]
  split
  · exact (keeps_start r name).logged _
  · exact (Keeps.refl r).logged _

lemma keeps_enlist (cluster : String) (r : Roster) (schedule : Object) :
    r.Keeps (enlist cluster r schedule) := by
  unfold enlist
  split
  · exact .refl r
  · exact keeps_startIfTargeting r cluster _ schedule

/-- Taking in a listing is taking in its first object and then the others. -/
lemma enlistAll_cons (cluster : String) (r : Roster) (schedule : Object) (rest : List Object) :
    enlistAll cluster r (schedule :: rest) =
      ((enlistAll cluster (enlist cluster r schedule).1 rest).1,
        (enlist cluster r schedule).2 ++
          (enlistAll cluster (enlist cluster r schedule).1 rest).2) := by
  -- what was done before stays in front of what is done next
  have hfront (xs : List Object) (r : Roster) (did more : List Occurrence) :
      xs.foldl (fun (r, did) o => ((enlist cluster r o).1, did ++ (enlist cluster r o).2))
          (r, did ++ more) =
        ((xs.foldl (fun (r, did) o => ((enlist cluster r o).1, did ++ (enlist cluster r o).2))
            (r, more)).1,
          did ++ (xs.foldl
            (fun (r, did) o => ((enlist cluster r o).1, did ++ (enlist cluster r o).2))
            (r, more)).2) := by
    induction xs generalizing r more with
    | nil => rfl
    | cons x xs ih =>
      simp only [List.foldl_cons, List.append_assoc]
      exact ih _ _
  have h := hfront rest (enlist cluster r schedule).1 (enlist cluster r schedule).2 []
  rw [List.append_nil] at h
  exact h

/-- A listing keeps the trackers that are there. -/
lemma keeps_enlistAll (cluster : String) (r : Roster) (schedules : List Object) :
    r.Keeps (enlistAll cluster r schedules) := by
  induction schedules generalizing r with
  | nil => exact .refl r
  | cons schedule rest ih =>
    rw [enlistAll_cons]
    exact (keeps_enlist cluster r schedule).trans (ih _)

/-- A change of a schedule keeps the trackers that are there. -/
lemma keeps_consider (cluster : String) (r : Roster) (event : Event) :
    r.Keeps (consider cluster r event) := by
  unfold consider
  split
  · exact (Keeps.refl r).logged [_]
  · split
    · exact keeps_startIfTargeting r cluster _ _
    · split
      · exact keeps_startIfTargeting r cluster _ _
      · exact (keeps_stop r _ _).logged _
    · exact keeps_stop r _ _

end Roster

/-! ## The steps of a watcher -/

namespace Watcher

lemma extends_drain (r : Roster) (next : AfterDrain) (did : List Occurrence) :
    r.Extends (drain r next did).roster := .of_eq (Roster.trackers_close _)

/-- Stopping all trackers is upkeep. -/
lemma mem_did_drain {r : Roster} {next : AfterDrain} {did : List Occurrence} {what : Occurrence}
    (hwhat : what.isUpkeep = false) : what ∈ (drain r next did).did ↔ what ∈ did := by
  show what ∈ did ++ r.stopAll.2 ↔ _
  rw [List.mem_append]
  exact or_iff_left ((Roster.keeps_stopAll r).not_mem hwhat)

/-- A step of a watcher starts trackers and leaves those that are there as they are. -/
lemma Step.extends_roster {view : View} {r : Roster} {cluster : String} {stage : WatcherStage}
    {change : WatcherChange} (h : Step view r cluster stage change) : r.Extends change.roster := by
  cases h with
  | begin => exact .of_eq rfl
  | relist => exact .of_eq rfl
  | finish => exact .of_eq rfl
  | cancel => exact extends_drain r _ _
  | callList => exact .of_eq rfl
  | listFails => exact extends_drain r _ _
  | listed => exact (Roster.keeps_enlistAll cluster r _).extends_fst
  | callWatch => exact .of_eq rfl
  | watchFails => exact extends_drain r _ _
  | opened => exact .of_eq rfl
  | take => exact (Roster.keeps_consider cluster r _).extends_fst
  | sawEnd => exact extends_drain r _ _

/-- What a step of a watcher does, apart from the upkeep of the roster, and when. -/
inductive Does (r : Roster) (stage : WatcherStage) (change : WatcherChange) : Occurrence → Prop
    where
  /-- It asks for the schedules when it is about to list. -/
  | callList {space : String} (hstage : stage = .ready) :
      Does r stage change (.called ⟨space, .list .scheduledBackup⟩)
  /-- It gets the schedules. -/
  | listed {listing : Listing} : Does r stage change (.listed .scheduledBackup listing)
  /-- It asks for a watch. -/
  | callWatch {space cursor : String} :
      Does r stage change (.called ⟨space, .watch .scheduledBackup cursor⟩)
  /-- It gets a watch. -/
  | opened : Does r stage change (.opened .scheduledBackup)
  /-- One of its calls fails. -/
  | refused {e : TaskError} : Does r stage change (.refused e)
  /-- It takes an event. -/
  | took {event : Event} : Does r stage change (.took event)
  /-- It sees the end of its watch, stops all trackers, and is going to list again. -/
  | sawEnd (hchange : change = drain r .relist [.sawEnd .scheduledBackup,
      .measured (.restart ResourceKind.scheduledBackup.plural)]) :
      Does r stage change (.sawEnd .scheduledBackup)
  /-- It counts the end of its watch. -/
  | restart : Does r stage change (.measured (.restart ResourceKind.scheduledBackup.plural))
  /-- It finishes. -/
  | finished {error : Option TaskError} : Does r stage change (.finished error)

/-- A step of a watcher does nothing else. -/
theorem Step.does_of_mem {view : View} {r : Roster} {cluster : String} {stage : WatcherStage}
    {change : WatcherChange} (h : Step view r cluster stage change) {what : Occurrence}
    (hwhat : what.isUpkeep = false) (hmem : what ∈ change.did) : Does r stage change what := by
  have hnot {c : Roster.Change} {Q : Prop} (hkeeps : r.Keeps c) (hmem : what ∈ c.2) : Q :=
    absurd hmem (hkeeps.not_mem hwhat)
  cases h with
  | begin =>
    obtain rfl := List.mem_singleton.mp hmem
    cases hwhat
  | relist => cases hmem
  | finish =>
    obtain rfl := List.mem_singleton.mp hmem
    exact .finished
  | cancel => cases (mem_did_drain hwhat).mp hmem
  | callList =>
    obtain rfl := List.mem_singleton.mp hmem
    exact .callList rfl
  | listFails =>
    obtain rfl := List.mem_singleton.mp ((mem_did_drain hwhat).mp hmem)
    exact .refused
  | listed =>
    rcases List.mem_cons.mp hmem with rfl | hmem
    · exact .listed
    · exact hnot (r.keeps_enlistAll cluster _) hmem
  | callWatch =>
    obtain rfl := List.mem_singleton.mp hmem
    exact .callWatch
  | watchFails =>
    obtain rfl := List.mem_singleton.mp ((mem_did_drain hwhat).mp hmem)
    exact .refused
  | opened =>
    obtain rfl := List.mem_singleton.mp hmem
    exact .opened
  | take =>
    rcases List.mem_cons.mp hmem with rfl | hmem
    · exact .took
    · exact hnot (r.keeps_consider cluster _) hmem
  | sawEnd =>
    rcases List.mem_cons.mp ((mem_did_drain hwhat).mp hmem) with rfl | hmem
    · exact .sawEnd rfl
    · obtain rfl := List.mem_singleton.mp hmem
      exact .restart

end Watcher

end BackupMonitor
