import BackupMonitor.Proofs.Reports

/-!
# After the end of a watch

A tracker whose watch has ended remembers nothing: `History.renewed` says that it goes on as a new
tracker would. The list that it asks for next gives it a cursor, and what the list returns is not
looked at. So a backup that ends while no watch is open is reported only if an event says so later
on, whether it was tracked before or not.
-/

namespace BackupMonitor

open Occurrence

/-- The cursor is that of a listing that a task got. -/
def IsListed (past : List Occurrence) (cursor : String) : Prop :=
  ∃ listing, .listed .backup listing ∈ past ∧ listing.cursor = cursor

lemma IsListed.append {past : List Occurrence} {cursor : String} (h : IsListed past cursor)
    (more : List Occurrence) : IsListed (past ++ more) cursor := by
  obtain ⟨listing, hmem, hcursor⟩ := h
  exact ⟨listing, List.mem_append_left _ hmem, hcursor⟩

/-- The next watch of the tracker starts from a cursor of its listings. -/
def TrackerStage.IsResuming (past : List Occurrence) : TrackerStage → Prop
  | .listed cursor => IsListed past cursor
  | .opening cursor => IsListed past cursor
  | _ => True

namespace Tracker

variable {setup : Setup} {view : View} {schedule : String} {stage stage' : TrackerStage}
  {did past before since : List Occurrence}

/-! ## The end of a watch -/

/-- A tracker that sees the end of its watch is about to list again. -/
lemma Step.eq_of_sawEnd_mem (h : Step view schedule stage stage' did)
    (hmem : .sawEnd .backup ∈ did) :
    stage' = .ready ∧
      did = [.sawEnd .backup, .measured (.restart ResourceKind.backup.plural)] := by
  cases h with
  | sawEnd => exact ⟨rfl, rfl⟩
  | take => simp [Tracker.take] at hmem
  | deliver =>
    simp only [Tracker.deliver] at hmem
    split at hmem <;> simp at hmem
  | begin => simp at hmem
  | cancel => simp [Tracker.finish] at hmem
  | callList => simp at hmem
  | listFails => simp [Tracker.finish] at hmem
  | listed => simp at hmem
  | callWatch => simp at hmem
  | watchFails => simp [Tracker.finish] at hmem
  | opened => simp at hmem

namespace History

variable {t : Tracker}

/-- A tracker whose watch has ended goes on as a new tracker would. -/
theorem renewed (h : History setup t (before ++ .sawEnd .backup :: since)) :
    ∃ rest, since = .measured (.restart ResourceKind.backup.plural) :: rest ∧
      History setup t (.measured .trackerStarted :: rest) := by
  generalize hall : before ++ .sawEnd .backup :: since = all at h
  -- induction on what came last: the end was seen in this step, or in the past of the tracker
  induction h generalizing before since with
  | spawned => simp at hall
  | fed f h ih =>
    obtain ⟨rest, hrest, hnew⟩ := ih hall
    exact ⟨rest, hrest, .fed f hnew⟩
  | @stepped t past did view stage hview lines h hstep ih =>
    -- in the step that sees the end, nothing but log lines comes after its two occurrences
    have hnow {front : List Occurrence}
        (hdid : did ++ lines.map logged = front ++ .sawEnd .backup :: since) :
        ∃ rest, since = .measured (.restart ResourceKind.backup.plural) :: rest ∧
          History setup { t with stage } (.measured .trackerStarted :: rest) := by
      have hmem : .sawEnd .backup ∈ did := by
        have : .sawEnd .backup ∈ did ++ lines.map logged := by simp [hdid]
        simpa using this
      obtain ⟨rfl, rfl⟩ := hstep.eq_of_sawEnd_mem hmem
      cases front with
      | nil =>
        obtain rfl := (List.cons.inj hdid).2
        have hspawned : History setup { t with stage := .spawned } [] := .spawned rfl
        exact ⟨_, rfl, .stepped hview lines hspawned .begin⟩
      | cons what front =>
        have htail : .measured (.restart ResourceKind.backup.plural) :: lines.map logged =
            front ++ .sawEnd .backup :: since := (List.cons.inj hdid).2
        have : .sawEnd .backup ∈ .measured (.restart ResourceKind.backup.plural) ::
            lines.map logged := by
          rw [htail]
          simp
        simp at this
    rcases List.append_eq_append_iff.mp hall with ⟨front, hpast, hsince⟩ | ⟨front, -, hdid⟩
    · cases front with
      | nil =>
        have hdid : did ++ lines.map logged = [] ++ .sawEnd .backup :: since := hsince.symm
        exact hnow hdid
      | cons what front =>
        obtain ⟨rfl, rfl⟩ := List.cons.inj hsince
        obtain ⟨rest, rfl, hnew⟩ := ih hpast.symm
        exact ⟨_, rfl, .stepped hview lines hnew hstep⟩
    · exact hnow hdid

end History

/-! ## As long as no event is taken -/

lemma isBlank_updateFeed {t : Tracker} (h : t.stage.IsBlank) (f : Feed → Feed) :
    (t.updateFeed f).stage.IsBlank :=
  stage_updateFeed f (fun _ _ h => h) (fun _ _ _ _ h => h) h

/-- Without an event there is nothing to track and nothing to report. -/
lemma Step.isBlank (h : Step view schedule stage stage' did) (hblank : stage.IsBlank)
    (hevent : did.filterMap event? = []) :
    stage'.IsBlank ∧ ∀ what ∈ did, what.isReport = false := by
  rcases h.sort with ⟨feed, tracked, event, queue, -, rfl, rfl, rfl⟩ |
    ⟨feed, tracked, report, place, rfl, rfl, rfl⟩ | hquiet
  · rw [filterMap_event?_take] at hevent
    cases hevent
  · exact hblank.elim
  · exact ⟨hquiet.after, hquiet.report⟩

/-- A tracker that has taken no event tracks nothing and has reported nothing. -/
theorem History.isBlank {t : Tracker} (h : History setup t past)
    (hevent : past.filterMap event? = []) :
    t.stage.IsBlank ∧ ∀ what ∈ past, what.isReport = false := by
  induction h with
  | spawned hstage => rw [hstage]; exact ⟨trivial, by simp⟩
  | fed f h ih => exact ⟨isBlank_updateFeed (ih hevent).1 f, (ih hevent).2⟩
  | stepped hview lines h hstep ih =>
    simp only [List.filterMap_append, List.append_eq_nil_iff] at hevent
    obtain ⟨hblank, hpast⟩ := ih hevent.1
    obtain ⟨hnext, hdid⟩ := hstep.isBlank hblank hevent.2.1
    refine ⟨hnext, fun what hwhat => ?_⟩
    simp only [List.mem_append, List.mem_map] at hwhat
    rcases hwhat with hwhat | hwhat | ⟨line, -, rfl⟩
    · exact hpast what hwhat
    · exact hdid what hwhat
    · rfl

/-! ## What the list is good for -/

lemma isResuming_append (h : stage.IsResuming past) (more : List Occurrence) :
    stage.IsResuming (past ++ more) := by
  cases stage with
  | listed cursor => exact IsListed.append h more
  | opening cursor => exact IsListed.append h more
  | _ => trivial

lemma isResuming_updateFeed {t : Tracker} (h : t.stage.IsResuming past) (f : Feed → Feed) :
    (t.updateFeed f).stage.IsResuming past :=
  stage_updateFeed f (fun _ _ h => h) (fun _ _ _ _ h => h) h

lemma Step.isResuming (h : Step view schedule stage stage' did) (hfrom : stage.IsResuming past) :
    stage'.IsResuming (past ++ did) ∧
      ∀ space cursor, .called ⟨space, .watch .backup cursor⟩ ∈ did → IsListed past cursor := by
  cases h with
  | listed => exact ⟨⟨view.listing .backup, by simp, rfl⟩, by simp⟩
  | callWatch =>
    refine ⟨IsListed.append hfrom _, fun space cursor hmem => ?_⟩
    obtain ⟨-, rfl⟩ : space = view.setup.space ∧ cursor = _ := by simpa using hmem
    exact hfrom
  | take =>
    constructor
    · simp only [Tracker.take]
      split
      · split <;> trivial
      · trivial
    · simp [Tracker.take]
  | deliver =>
    simp only [Tracker.deliver]
    split
    · exact ⟨trivial, by simp⟩
    · refine ⟨?_, by simp⟩
      split <;> trivial
  | begin => exact ⟨trivial, by simp⟩
  | cancel => exact ⟨trivial, by simp [Tracker.finish]⟩
  | callList => exact ⟨trivial, by simp⟩
  | listFails => exact ⟨trivial, by simp [Tracker.finish]⟩
  | watchFails => exact ⟨trivial, by simp [Tracker.finish]⟩
  | opened => exact ⟨trivial, by simp⟩
  | sawEnd => exact ⟨trivial, by simp⟩

/-- A tracker watches from the cursors of its listings. -/
theorem History.isResuming {t : Tracker} (h : History setup t past) :
    t.stage.IsResuming past ∧
      ∀ space cursor, .called ⟨space, .watch .backup cursor⟩ ∈ past →
        IsListed past cursor := by
  induction h with
  | spawned hstage => rw [hstage]; exact ⟨trivial, by simp⟩
  | fed f h ih => exact ⟨isResuming_updateFeed ih.1 f, ih.2⟩
  | stepped hview lines h hstep ih =>
    obtain ⟨hfrom, hpast⟩ := ih
    obtain ⟨hnext, hdid⟩ := hstep.isResuming hfrom
    rw [← List.append_assoc]
    refine ⟨isResuming_append hnext _, fun space cursor hmem => ?_⟩
    simp only [List.append_assoc, List.mem_append, List.mem_map, reduceCtorEq, and_false,
      exists_false, or_false] at hmem
    rcases hmem with hmem | hmem
    · exact ((hpast space cursor hmem).append _).append _
    · exact ((hdid space cursor hmem).append _).append _

end Tracker

namespace System

variable {setup : Setup} {s : System}

/-- Once the watch of a tracker has ended, the next list gives the tracker a cursor and nothing
else. As long as it has taken no event over a later watch it has reported nothing since and tracks
nothing, and what its sinks are handed from then on is what those events make one by one. -/
theorem reports_since_closure (h : Reachable setup s) {index : Nat} {t : Tracker}
    (ht : s.roster.trackers[index]? = some t) {before since : List Occurrence}
    (hclosure : s.trace.ofTask (.tracker index) = before ++ .sawEnd .backup :: since) :
    (since.filterMap event? = [] →
      t.stage.IsBlank ∧ ∀ what ∈ since, what.isReport = false) ∧
    (∀ place < setup.sinks.length,
      Delivery.reportsAt place (since.filterMap delivery?) ++ t.stage.dueAt place =
        (since.filterMap event?).filterMap (Event.report? t.schedule)) ∧
    ∀ space cursor, .called ⟨space, .watch .backup cursor⟩ ∈ since →
      IsListed since cursor := by
  have hhistory := h.history ht
  rw [hclosure] at hhistory
  -- what is proved of the whole life of a tracker holds of what came since, as of a new one
  obtain ⟨rest, rfl, hnew⟩ := hhistory.renewed
  refine ⟨fun hevent => ?_, fun place hplace => hnew.handed_append_due hplace, ?_⟩
  · obtain ⟨hblank, hrest⟩ := hnew.isBlank hevent
    refine ⟨hblank, fun what hwhat => ?_⟩
    rcases List.mem_cons.mp hwhat with rfl | hwhat
    · rfl
    · exact hrest what (List.mem_cons_of_mem _ hwhat)
  · intro space cursor hcalled
    obtain ⟨listing, hmem, hcursor⟩ := hnew.isResuming.2 space cursor (by simpa using hcalled)
    exact ⟨listing, by simpa using hmem, hcursor⟩

/-- Between `s` and `next` the watch of a tracker that follows a backup ends, the tracker lists, and
its next watch is opened, over which nothing has come in. -/
structure Reopens (setup : Setup) (s next : System) (index : Nat) (t : Tracker) (name : String)
    (listing : Listing) : Prop where
  /-- The first system is one of a run. -/
  reachable : Reachable setup s
  /-- The second one comes later in that run. -/
  later : ∃ moves, s.play setup moves = some next
  /-- The tracker is there. -/
  tracker : s.roster.trackers[index]? = some t
  /-- It tracks the backup. -/
  tracked : ∃ feed tracked, t.stage = .following feed tracked ∧ tracked.contains name = true
  /-- It lists and watches again. -/
  reopened : next.trace.ofTask (.tracker index) = s.trace.ofTask (.tracker index) ++
    [.sawEnd .backup, .measured (.restart ResourceKind.backup.plural),
      .called ⟨setup.space, .list .backup⟩, .listed .backup listing,
      .called ⟨setup.space, .watch .backup listing.cursor⟩, .opened .backup]
  /-- It waits for an event. -/
  waiting : ∃ u feed tracked, next.roster.trackers[index]? = some u ∧
    u.stage = .following feed tracked ∧ feed.queue = []

end System

namespace Sample

/-- A backup is running. -/
def underWay : List Move :=
  opening ++ news .added (running "b1") :: steps 1

/-- The watch ends; by the time of the next list the backup has failed. -/
def missedEnd : List Move :=
  .input (.items .backup [failed "b1"]) :: .input (.close .backup) :: steps 5

end Sample

/-- A list that says that a backup has failed leads to no report. -/
theorem System.reports_since_closure_missedEnd :
    ∃ (t : Tracker) (since : List Occurrence),
      Reachable Sample.setup (Sample.systemAfter (Sample.underWay ++ Sample.missedEnd)) ∧
      (Sample.systemAfter (Sample.underWay ++ Sample.missedEnd)).roster.trackers[0]? = some t ∧
      .listed .backup { items := [Sample.failed "b1"], cursor := "rv-2" } ∈ since ∧
      t.stage.IsBlank ∧ ∀ what ∈ since, what.isReport = false := by
  have h : Reachable Sample.setup
      (Sample.systemAfter (Sample.underWay ++ Sample.missedEnd)) :=
    ⟨Sample.underWay ++ Sample.missedEnd, rfl⟩
  obtain ⟨t, ht⟩ : ∃ t, (Sample.systemAfter
      (Sample.underWay ++ Sample.missedEnd)).roster.trackers[0]? = some t := ⟨_, rfl⟩
  have hclosure : (Sample.systemAfter (Sample.underWay ++ Sample.missedEnd)).trace.ofTask
      (.tracker 0) =
      (Sample.systemAfter Sample.underWay).trace.ofTask (.tracker 0) ++ .sawEnd .backup ::
        [.measured (.restart ResourceKind.backup.plural),
          .called ⟨Sample.setup.space, .list .backup⟩,
          .listed .backup { items := [Sample.failed "b1"], cursor := "rv-2" },
          .called ⟨Sample.setup.space, .watch .backup "rv-2"⟩, .opened .backup] := rfl
  obtain ⟨hquiet, -, -⟩ := System.reports_since_closure h ht hclosure
  exact ⟨t, _, h, ht, by simp, hquiet rfl⟩

/-- A tracker does not report the end of a backup that it tracked when all it gets is a list that
says so. -/
theorem System.not_reported_on_reopening :
    ¬ ∀ (setup : Setup) (s next : System) (index : Nat) (t : Tracker) (name : String)
      (listing : Listing) (backup : Object) (outcome : Outcome),
      Reopens setup s next index t name listing → backup ∈ listing.items →
      backup.name = some name → backup.isOwnedBySchedule t.schedule = true →
      Outcome.ofBackup backup = .ok (some outcome) →
      ∀ place < setup.sinks.length, outcome.report ∈
        Delivery.reportsAt place ((next.trace.ofTask (.tracker index)).filterMap delivery?) := by
  intro hclaim
  have hreopens : Reopens Sample.setup (Sample.systemAfter Sample.underWay)
      (Sample.systemAfter (Sample.underWay ++ Sample.missedEnd)) 0
      ((Sample.systemAfter Sample.underWay).roster.trackers[0]?.getD ⟨"", 0, .spawned⟩) "b1"
      { items := [Sample.failed "b1"], cursor := "rv-2" } :=
    { reachable := ⟨Sample.underWay, rfl⟩
      later := ⟨Sample.missedEnd, rfl⟩
      tracker := rfl
      tracked := ⟨_, _, rfl, rfl⟩
      reopened := rfl
      waiting := ⟨_, _, _, rfl, rfl, rfl⟩ }
  have hreport := hclaim _ _ _ _ _ _ _ (Sample.failed "b1") (.failure "disk full") hreopens
    List.mem_cons_self rfl rfl rfl 0 (by decide)
  have hnone : Delivery.reportsAt 0 (((Sample.systemAfter
      (Sample.underWay ++ Sample.missedEnd)).trace.ofTask (.tracker 0)).filterMap delivery?) = [] :=
    rfl
  rw [hnone] at hreport
  exact List.not_mem_nil hreport

end BackupMonitor
