import BackupMonitor.Proofs.Catalogue
import BackupMonitor.Proofs.Reports

/-!
# The registry of a watcher over its run

A watcher that is the only one keeps the registry in line with the schedules that exist: after any
events since its last listing, the registered names are those that a listing of what exists by then
would lead to.

The invariant `Watcher.InCycle` ties the registry to the events of the current cycle, and says that
the registry is empty outside of a cycle. So the next cycle starts from nothing, whatever the one
before left behind. What is said of the registry in a cycle is left open: it has to hold of a
listing that is taken in with an empty registry, and to be kept by events (`Cycle.IsKept`).
-/

namespace BackupMonitor

open Occurrence

/-! ## Cycles -/

/-- The schedules that a watcher listed last, and the events that it took since. -/
structure Cycle where
  /-- The schedules it listed. -/
  schedules : List Object
  /-- The events it took, oldest first. -/
  events : List Event := []

namespace Cycle

/-- The cycle after one more thing that a watcher did. -/
def next? (cycle : Option Cycle) : Occurrence → Option Cycle
  | .listed .scheduledBackup listing => some { schedules := listing.items }
  | .took event => cycle.map fun c => { c with events := c.events ++ [event] }
  | _ => cycle

/-- The current cycle of a watcher that did `past`. -/
def ofPast? (past : List Occurrence) : Option Cycle :=
  past.foldl next? none

/-- The schedules that exist after a cycle, if its events fit. -/
def final? (cycle : Cycle) : Option Catalogue :=
  (Catalogue.ofListing cycle.schedules).followAll? cycle.events

lemma ofPast?_concat (past : List Occurrence) (what : Occurrence) :
    ofPast? (past ++ [what]) = next? (ofPast? past) what := by
  unfold ofPast?
  rw [List.foldl_append]
  rfl

/-- Upkeep of the roster belongs to the cycle that is under way. -/
lemma ofPast?_append_of_isUpkeep {did : List Occurrence} (h : ∀ what ∈ did, what.isUpkeep = true)
    (past : List Occurrence) : ofPast? (past ++ did) = ofPast? past := by
  unfold ofPast?
  rw [List.foldl_append]
  generalize past.foldl next? none = cycle
  induction did with
  | nil => rfl
  | cons what did ih =>
    have hwhat : next? cycle what = cycle := by
      have := h what List.mem_cons_self
      cases what <;> first | rfl | cases this
    rw [List.foldl_cons, hwhat]
    exact ih fun other hother => h other (List.mem_cons_of_mem _ hother)

/-- The cycle since the last listing in `past`. -/
lemma ofPast?_eq_some {before after : List Occurrence} {listing : Listing}
    (hlast : after.filterMap schedules? = []) :
    ofPast? (before ++ .listed .scheduledBackup listing :: after) =
      some { schedules := listing.items, events := after.filterMap event? } := by
  -- the events that come after those of the cycle so far are put at its end
  have hafter (cycle : Cycle) : after.foldl next? (some cycle) =
      some { cycle with events := cycle.events ++ after.filterMap event? } := by
    induction after generalizing cycle with
    | nil => simp
    | cons what after ih =>
      rw [List.filterMap_eq_nil_iff] at hlast
      have hrest : after.filterMap schedules? = [] :=
        List.filterMap_eq_nil_iff.mpr fun other hmem => hlast other (List.mem_cons_of_mem _ hmem)
      rw [List.foldl_cons]
      cases what with
      | took event =>
        have hnext : next? (some cycle) (.took event) =
            some { cycle with events := cycle.events ++ [event] } := rfl
        rw [hnext, ih hrest]
        simp [event?]
      | listed kind other =>
        cases kind with
        | scheduledBackup => cases hlast _ List.mem_cons_self
        | backup => exact ih hrest cycle
      | _ => exact ih hrest cycle
  unfold ofPast?
  rw [List.foldl_append, List.foldl_cons]
  exact (hafter _).trans (by rw [List.nil_append])

/-- The registry is in line with what exists after the cycle, provided that no two schedules of the
listing have the same name and that the events fit. -/
def Keeps (cycle : Cycle) (cluster : String) (registry : Registry) : Prop :=
  (cycle.schedules.filterMap (·.name)).Nodup →
    ∀ final, cycle.final? = some final → registry.Covers cluster final

/-- A listing is taken in with an empty registry. -/
lemma keeps_enlistAll {r : Roster} (hempty : r.registry = ∅) (cluster : String)
    (schedules : List Object) :
    Keeps { schedules } cluster (r.enlistAll cluster schedules).1.registry := by
  intro hnames final hfinal
  obtain rfl : Catalogue.ofListing schedules = final := Option.some.inj hfinal
  have hcovers : r.registry.Covers cluster ∅ := by
    rw [hempty]
    exact Registry.covers_empty cluster
  exact Roster.covers_enlistAll hcovers hnames fun _ _ => rfl

/-- An event is taken in with the registry in line. -/
lemma Keeps.consider {cycle : Cycle} {cluster : String} {r : Roster}
    (h : cycle.Keeps cluster r.registry) (event : Event) :
    Keeps { cycle with events := cycle.events ++ [event] } cluster
      (r.consider cluster event).1.registry := by
  intro hnames final hfinal
  obtain ⟨mid, hmid, hlast⟩ := Catalogue.followAll?_concat_eq_some hfinal
  exact Roster.covers_consider (h hnames mid hmid) hlast

/-- What holds of the registry when a listing has been taken in with an empty registry, and is kept
by taking in events. -/
structure IsKept (cluster : String) (K : Cycle → Registry → Prop) : Prop where
  /-- It holds after a listing. -/
  begins : ∀ (r : Roster) (schedules : List Object), r.registry = ∅ →
    K { schedules } (r.enlistAll cluster schedules).1.registry
  /-- It is kept by an event. -/
  takes : ∀ (cycle : Cycle) (r : Roster) (event : Event), K cycle r.registry →
    K { cycle with events := cycle.events ++ [event] } (r.consider cluster event).1.registry

lemma isKept_keeps (cluster : String) : IsKept cluster fun cycle => cycle.Keeps cluster where
  begins _ schedules hempty := keeps_enlistAll hempty cluster schedules
  takes _ _ event hkeeps := hkeeps.consider event

end Cycle

/-! ## What one step of a watcher keeps -/

/-- Whether the watcher has taken in a listing and has not stopped its trackers since. -/
def WatcherStage.isInCycle : WatcherStage → Bool
  | .listed _ => true
  | .opening _ => true
  | .following _ => true
  | _ => false

namespace Watcher

/-- In a cycle `K` holds of the cycle and the registry, and outside of a cycle the registry is
empty. -/
structure InCycle (K : Cycle → Registry → Prop) (stage : WatcherStage) (registry : Registry)
    (past : List Occurrence) : Prop where
  /-- The registry in a cycle. -/
  keeps : stage.isInCycle = true → ∃ cycle, Cycle.ofPast? past = some cycle ∧ K cycle registry
  /-- The registry outside of a cycle. -/
  empty : stage.isInCycle = false → registry = ∅

/-- In a cycle the registry is in line with what exists. -/
abbrev InLine (cluster : String) : WatcherStage → Registry → List Occurrence → Prop :=
  InCycle fun cycle => cycle.Keeps cluster

@[simp] lemma registry_drain (r : Roster) (next : AfterDrain) (did : List Occurrence) :
    (drain r next did).roster.registry = ∅ := by
  show (Roster.close r.stopAll.1).registry = ∅
  simp only [Roster.close, Roster.noteEmptied]
  split <;> rfl

variable {view : View} {r : Roster} {cluster : String} {stage : WatcherStage}
  {change : WatcherChange} {past : List Occurrence}

lemma InCycle.of_empty {K : Cycle → Registry → Prop} (hstage : stage.isInCycle = false)
    {registry : Registry} (hempty : registry = ∅) (past : List Occurrence) :
    InCycle K stage registry past :=
  ⟨fun h => absurd (h.symm.trans hstage) (by simp), fun _ => hempty⟩

/-- What a step of a watcher means for its cycle. -/
inductive CycleChange (r : Roster) (cluster : String) (past : List Occurrence)
    (stage : WatcherStage) (change : WatcherChange) : Prop where
  /-- A cycle begins with a listing. -/
  | begins {schedules : List Object} (hstage : stage = .listing)
      (hnext : change.stage.isInCycle = true)
      (hcycle : Cycle.ofPast? (past ++ change.did) = some { schedules })
      (hroster : change.roster = (r.enlistAll cluster schedules).1)
  /-- The cycle takes in an event. -/
  | takes {event : Event} (hstage : stage.isInCycle = true) (hnext : change.stage.isInCycle = true)
      (hcycle : Cycle.ofPast? (past ++ change.did) = Cycle.next? (Cycle.ofPast? past) (.took event))
      (hroster : change.roster = (r.consider cluster event).1)
  /-- The cycle goes on as it is. -/
  | goesOn (hstage : stage.isInCycle = true) (hnext : change.stage.isInCycle = true)
      (hcycle : Cycle.ofPast? (past ++ change.did) = Cycle.ofPast? past)
      (hroster : change.roster = r)
  /-- The watcher leaves the cycle or is outside of one. -/
  | outside (hnext : change.stage.isInCycle = false)
      (htrackers : change.roster.trackers = r.trackers)
      (hregistry : change.roster.registry = ∅ ∨
        (stage.isInCycle = false ∧ change.roster.registry = r.registry))

/-- A watcher that stops all trackers is outside of a cycle. -/
lemma CycleChange.drain (next : AfterDrain) (did : List Occurrence) :
    CycleChange r cluster past stage (drain r next did) :=
  .outside rfl (Roster.trackers_close _) (.inl (registry_drain r next did))

/-- Every step of a watcher is of one of these sorts. -/
theorem Step.cycleChange (h : Step view r cluster stage change) (past : List Occurrence) :
    CycleChange r cluster past stage change := by
  cases h with
  | listed =>
    refine .begins rfl rfl ?_ rfl
    rw [List.append_cons, Cycle.ofPast?_append_of_isUpkeep (r.keeps_enlistAll cluster _).upkeep,
      Cycle.ofPast?_concat]
    rfl
  | @take feed event queue =>
    refine .takes rfl rfl ?_ rfl
    rw [List.append_cons, Cycle.ofPast?_append_of_isUpkeep (r.keeps_consider cluster _).upkeep,
      Cycle.ofPast?_concat]
  | callWatch => exact .goesOn rfl rfl (Cycle.ofPast?_concat past _) rfl
  | opened => exact .goesOn rfl rfl (Cycle.ofPast?_concat past _) rfl
  | begin => exact .outside rfl rfl (.inr ⟨rfl, rfl⟩)
  | relist => exact .outside rfl rfl (.inr ⟨rfl, rfl⟩)
  | finish => exact .outside rfl rfl (.inr ⟨rfl, rfl⟩)
  | callList => exact .outside rfl rfl (.inr ⟨rfl, rfl⟩)
  | cancel => exact .drain _ _
  | listFails => exact .drain _ _
  | watchFails => exact .drain _ _
  | sawEnd => exact .drain _ _

/-- A step of a watcher keeps what is kept by the operations on the registry. -/
theorem Step.inCycle {K : Cycle → Registry → Prop} (hkept : Cycle.IsKept cluster K)
    (h : Step view r cluster stage change) (hin : InCycle K stage r.registry past) :
    InCycle K change.stage change.roster.registry (past ++ change.did) := by
  cases h.cycleChange past with
  | begins hstage hnext hcycle hroster =>
    refine ⟨fun _ => ⟨_, hcycle, ?_⟩, fun hout => absurd (hout.symm.trans hnext) (by simp)⟩
    -- the registry is empty when the cycle begins
    rw [hroster]
    exact hkept.begins r _ (hin.empty (by rw [hstage]; rfl))
  | @takes event hstage hnext hcycle hroster =>
    obtain ⟨cycle, hpast, hkeeps⟩ := hin.keeps hstage
    rw [hpast] at hcycle
    refine ⟨fun _ => ⟨_, hcycle, ?_⟩, fun hout => absurd (hout.symm.trans hnext) (by simp)⟩
    rw [hroster]
    exact hkept.takes cycle r event hkeeps
  | goesOn hstage hnext hcycle hroster =>
    rw [hroster]
    exact ⟨fun _ => hcycle ▸ hin.keeps hstage, fun hout => absurd (hout.symm.trans hnext) (by simp)⟩
  | outside hnext htrackers hregistry =>
    refine .of_empty hnext ?_ _
    rcases hregistry with hempty | ⟨hstage, hsame⟩
    · exact hempty
    · exact hsame.trans (hin.empty hstage)

lemma isInCycle_updateFeed (w : Watcher) (f : Feed → Feed) :
    (w.updateFeed f).stage.isInCycle = w.stage.isInCycle := by
  unfold updateFeed
  split
  next hstage => rw [hstage]; rfl
  next => rfl

end Watcher

namespace Roster

@[simp] lemma registry_setStage (r : Roster) (index : Nat) (stage : TrackerStage) :
    (r.setStage index stage).registry = r.registry := by
  simp only [setStage, noteEmptied]
  split <;> rfl

end Roster

/-! ## What a run of a lone watcher keeps -/

namespace System

variable {setup : Setup} {s next : System}

/-- The registry is empty until a watcher starts, and in line as long as there is just one. -/
structure IsInLine (s : System) : Prop where
  /-- The registry without a watcher. -/
  none : s.watchers = [] → s.roster.registry = ∅
  /-- The registry of one watcher. -/
  one : ∀ w, s.watchers = [w] →
    Watcher.InLine w.cluster w.stage s.roster.registry (s.trace.ofTask (.watcher 0))

lemma IsInLine.withFeeds (h : IsInLine s) (F : TaskId → Feed → Feed) :
    IsInLine (s.withFeeds F) := by
  have hlength := length_watchers_withFeeds s F
  constructor
  · intro hnone
    exact h.none (List.length_eq_zero_iff.mp (by rw [← hlength, hnone, List.length_nil]))
  · intro w hw
    obtain ⟨v, hv⟩ := List.length_eq_one_iff.mp (hlength.symm.trans (congrArg List.length hw))
    have hw : (s.withFeeds F).watchers[0]? = some w := by rw [hw, List.getElem?_cons_zero]
    rw [getElem?_watchers_withFeeds, hv, List.getElem?_cons_zero, Option.map_some,
      Option.some_inj] at hw
    obtain rfl := hw
    obtain ⟨hkeeps, hempty⟩ := h.one v hv
    rw [Watcher.cluster_updateFeed]
    constructor
    · rwa [Watcher.isInCycle_updateFeed]
    · rwa [Watcher.isInCycle_updateFeed]

lemma IsInLine.apply (h : IsInLine s) (input : Input) : IsInLine (s.apply input) := by
  cases input with
  | start role =>
    cases role with
    | tracker schedule => exact ⟨h.none, h.one⟩
    | watcher cluster =>
      constructor
      · intro hnone
        exact absurd hnone (by simp [System.apply, System.start])
      · intro w hw
        rcases List.append_eq_singleton_iff.mp hw with ⟨hnone, hw⟩ | ⟨-, hw⟩
        · obtain rfl := List.singleton_inj.mp hw
          exact Watcher.InCycle.of_empty rfl (h.none hnone) _
        · cases hw
  | event => exact h.withFeeds _
  | close => exact h.withFeeds _
  | arrive => exact h.withFeeds _
  | items => exact ⟨h.none, h.one⟩
  | fault => exact ⟨h.none, h.one⟩
  | hold => exact ⟨h.none, h.one⟩
  | holdSinks => exact ⟨h.none, h.one⟩
  | cancel => exact ⟨h.none, h.one⟩

lemma IsInLine.step (h : IsInLine s) {task : TaskId} (hstep : s.step setup task = some next) :
    IsInLine next := by
  cases task with
  | tracker index =>
    obtain ⟨t, stage, did, -, -, rfl⟩ := step_tracker_eq_some hstep
    constructor
    · intro hnone
      rw [Roster.registry_setStage]
      exact h.none hnone
    · intro w hw
      rw [Roster.registry_setStage, ofTask_append_map, if_neg (by simp), List.append_nil]
      exact h.one w hw
  | watcher index =>
    obtain ⟨w, change, hindex, hchange, rfl⟩ := step_watcher_eq_some hstep
    constructor
    · intro hnone
      have hempty : s.watchers = [] := List.modify_eq_nil_iff.mp hnone
      rw [hempty] at hindex
      cases hindex
    · intro u hu
      have hu : s.watchers.modify index ({ · with stage := change.stage }) = [u] := hu
      have hone : s.watchers.length = 1 := by
        rw [← List.length_modify, hu]
        rfl
      obtain ⟨v, hv⟩ := List.length_eq_one_iff.mp hone
      have hlt : index < s.watchers.length := (List.getElem?_eq_some_iff.mp hindex).1
      obtain rfl : index = 0 := by omega
      obtain rfl : v = w := by simpa [hv] using hindex
      rw [hv] at hu
      obtain rfl : { v with stage := change.stage } = u := List.singleton_inj.mp hu
      rw [ofTask_append_map, if_pos rfl]
      exact (Watcher.step_cases hchange).inCycle (Cycle.isKept_keeps _) (h.one v hv)

lemma Reachable.isInLine (h : Reachable setup s) : IsInLine s :=
  h.induct ⟨fun _ => rfl, fun _ hw => by cases hw⟩ (fun _ input h => h.apply input)
    (fun _ _ _ h hstep => h.step hstep)

/-- The only watcher, in a cycle that began with a listing of distinct names and went on with events
that fit, has exactly those schedules registered that exist by then and are for its cluster: the
ones that it would register if it took in a listing of them anew. -/
theorem registered_iff_targets (h : Reachable setup s) {w : Watcher} (hw : s.watchers = [w])
    (hstage : w.stage.isInCycle = true) {before after : List Occurrence} {listing : Listing}
    (hpast : s.trace.ofTask (.watcher 0) = before ++ .listed .scheduledBackup listing :: after)
    (hlast : after.filterMap schedules? = [])
    (hnames : (listing.items.filterMap (·.name)).Nodup) {final : Catalogue}
    (hfinal : (Catalogue.ofListing listing.items).followAll? (after.filterMap event?) =
      some final) :
    (∀ name, name ∈ s.roster.registry.names ↔
      ∃ schedule, final.get? name = some schedule ∧
        schedule.scheduleCluster = .ok (some w.cluster)) ∧
    ∀ (r : Roster) (schedules : List Object), r.registry = ∅ →
      (schedules.filterMap (·.name)).Nodup → Catalogue.ofListing schedules = final →
      s.roster.registry.names = (r.enlistAll w.cluster schedules).1.registry.names := by
  obtain ⟨cycle, hcycle, hkeeps⟩ := (h.isInLine.one w hw).keeps hstage
  rw [hpast, Cycle.ofPast?_eq_some hlast] at hcycle
  obtain rfl := Option.some.inj hcycle
  have hcovers : s.roster.registry.Covers w.cluster final := hkeeps hnames final hfinal
  refine ⟨hcovers.mem_names_iff, ?_⟩
  intro r schedules hempty hdistinct hschedules
  have hanew : (r.enlistAll w.cluster schedules).1.registry.Covers w.cluster final :=
    Cycle.keeps_enlistAll hempty w.cluster schedules hdistinct final (by rw [← hschedules]; rfl)
  exact hcovers.names_eq hanew

end System

namespace Sample

/-- A schedule with that value for the name of its cluster. -/
def schedule (name : Option String) (cluster : Json) : Object where
  name := name
  content := .object [("spec", .object [("cluster", .object [("name", cluster)])])]

/-- Schedules of the cluster `main`, of another one, and of none. -/
def schedules : List Object :=
  [schedule (some "a") (.string "main"), schedule (some "b") (.string "other"),
    schedule none (.string "main"), schedule (some "c") (.int 1)]

/-- Something happens to a schedule, and the watcher takes it in. -/
def scheduleNews (change : Change) (schedule : Object) : List Move :=
  [.input (.event .scheduledBackup { change, object := schedule }), .step (.watcher 0)]

/-- A watcher finds the schedule `nightly` and starts its tracker, and both of them get as far as
their open watches. -/
def nightly : List Move :=
  .input (.items .scheduledBackup [schedule (some "nightly") (.string "main")]) ::
    .input (.start (.watcher "main")) :: List.replicate 5 (.step (.watcher 0)) ++ steps 5

/-- The tracker of a schedule is blocked in a sink when the schedule is deleted and comes back. -/
def replaced : List Move :=
  nightly ++ .input (.holdSinks true) :: news .modified (failed "b1") :: steps 1 ++
    scheduleNews .deleted (schedule (some "nightly") (.string "main")) ++
    scheduleNews .added (schedule (some "nightly") (.string "main"))

/-- The schedules `a` and `b` change places, and `c` is deleted. -/
def reassigned : List Move :=
  .input (.items .scheduledBackup schedules) :: .input (.start (.watcher "main")) ::
    List.replicate 5 (.step (.watcher 0)) ++
    scheduleNews .modified (schedule (some "a") (.string "other")) ++
    scheduleNews .modified (schedule (some "b") (.string "main")) ++
    scheduleNews .deleted (schedule (some "c") (.string "main"))

/-- What the watcher did after its listing. -/
def sinceListing : List Occurrence :=
  ((systemAfter reassigned).trace.ofTask (.watcher 0)).drop 3

end Sample

/-- After two schedules have changed places and a third is gone, just the one that came is
registered. -/
theorem System.registered_iff_targets_reassigned :
    Reachable Sample.setup (Sample.systemAfter Sample.reassigned) ∧
      (Sample.systemAfter Sample.reassigned).roster.registry.names =
        (Roster.enlistAll "main" {} [Sample.schedule (some "a") (.string "other"),
          Sample.schedule (some "b") (.string "main")]).1.registry.names ∧
      "b" ∈ (Sample.systemAfter Sample.reassigned).roster.registry.names := by
  have h : Reachable Sample.setup (Sample.systemAfter Sample.reassigned) :=
    ⟨Sample.reassigned, rfl⟩
  have hw : (Sample.systemAfter Sample.reassigned).watchers =
      [{ cluster := "main", stage := .following {} }] := rfl
  have hpast : (Sample.systemAfter Sample.reassigned).trace.ofTask (.watcher 0) =
      ((Sample.systemAfter Sample.reassigned).trace.ofTask (.watcher 0)).take 2 ++
        .listed .scheduledBackup { items := Sample.schedules, cursor := "rv-1" } ::
        Sample.sinceListing := rfl
  have hlast : Sample.sinceListing.filterMap schedules? = [] := rfl
  obtain ⟨final, hfinal⟩ : ∃ final, (Catalogue.ofListing Sample.schedules).followAll?
      (Sample.sinceListing.filterMap event?) = some final := ⟨_, rfl⟩
  have hschedules : Catalogue.ofListing [Sample.schedule (some "a") (.string "other"),
      Sample.schedule (some "b") (.string "main")] = final := by
    obtain rfl := Option.some.inj hfinal
    rfl
  obtain ⟨hmem, hanew⟩ := System.registered_iff_targets h hw rfl hpast hlast (by decide) hfinal
  refine ⟨h, hanew {} _ rfl (by decide) hschedules, (hmem "b").mpr ?_⟩
  rw [← hschedules]
  exact ⟨Sample.schedule (some "b") (.string "main"), rfl, rfl⟩

end BackupMonitor
