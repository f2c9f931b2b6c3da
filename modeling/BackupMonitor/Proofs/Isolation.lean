import BackupMonitor.Proofs.Shadows

/-!
# Schedules are isolated from each other

If the other schedules are left out of the listing and of the input, and so are the events about
backups that are not of the schedule, the trackers of the schedule make the same reports
(`System.Session.isolated`). The session in which nothing is left out is followed input by input
(`System.Shadows.exists_session`), and the order of the steps makes no difference to what each
tracker reports.
-/

namespace BackupMonitor

open Occurrence

namespace System

variable {setup : Setup} {cluster name : String} {s s' t first first' : System}
  {inputs : List Input} {index before : Nat}

/-! ## Sessions -/

namespace Shadows

/-- The input without the others leads to a session that follows. The trackers have their places
among all that are ever started. -/
theorem exists_session (h : Shadows setup name before first first')
    (hrun : WatcherRun setup cluster first) (hrun' : WatcherRun setup cluster first')
    (hrest' : first'.isAtRest setup = true) (hsession : Session setup first inputs t)
    (hroles : inputs.filterMap Input.role? = [])
    (hopen : ⟨.watcher 0, .sawEnd .scheduledBackup⟩ ∉ t.since first) {all : Roster}
    (hall : t.roster.schedules <+: all.schedules) :
    ∃ t', Session setup first' (inputs.filterMap (Input.only? name (all.place? before name))) t' ∧
      t'.isAtRest setup = true ∧ Shadows setup name before t t' := by
  induction hsession with
  | start => exact ⟨first', .start, hrest', h⟩
  | @next inputs input mid t hsession hsettles ih =>
    rw [List.filterMap_append, List.append_eq_nil_iff] at hroles
    have hrole : input.role? = none :=
      List.filterMap_eq_nil_iff.mp hroles.2 input List.mem_cons_self
    have hinput : LeadsTo setup mid (mid.apply input) := .of_input setup mid hrole
    have hmid : LeadsTo setup first (mid.apply input) := (hsession.leadsTo hroles.1).trans hinput
    rw [hmid.since_trans hsettles.leadsTo, List.mem_append, not_or, since_apply] at hopen
    have hallmid : mid.roster.schedules <+: all.schedules :=
      ((Roster.isKept_schedules mid.roster.schedules).leadsTo (hinput.trans hsettles.leadsTo)
        (List.prefix_refl _)).trans hall
    obtain ⟨mid', hsession', hmidrest', hshadows⟩ := ih hroles.1 hopen.1 hallmid
    have hmidrun' := hrun'.leadsTo (hsession'.leadsTo (Input.filterMap_role?_only? hroles.1))
    cases hkept : input.only? name (all.place? before name) with
    | none =>
      -- nothing is left of the input, and there is nothing to do
      obtain ⟨t', hsettles', hlater⟩ := (hshadows.apply_of_none hallmid hkept).exists_of_settles
        (hrun.leadsTo hmid) hmidrun' hsettles hopen.2
      obtain rfl := hsettles'.eq_of_isAtRest hmidrest'
      refine ⟨t', ?_, hmidrest', hlater⟩
      rwa [List.filterMap_append, List.filterMap_cons_none hkept, List.filterMap_nil,
        List.append_nil]
    | some kept =>
      have hkeptrole := (Input.role?_of_only? hkept).trans hrole
      obtain ⟨t', hsettles', hlater⟩ := (hshadows.apply hrole hallmid hkept).exists_of_settles
        (hrun.leadsTo hmid) (hmidrun'.leadsTo (.of_input setup mid' hkeptrole)) hsettles hopen.2
      refine ⟨t', ?_, hsettles'.isAtRest, hlater⟩
      rw [List.filterMap_append, List.filterMap_cons_some hkept, List.filterMap_nil]
      exact hsession'.next hsettles'

end Shadows

/-- Before the watcher lists, the others may be left out of the listing. -/
lemma WatcherRun.shadows_only (hrun : WatcherRun setup cluster s) {w : Watcher}
    (hw : s.watchers = [w]) (hstage : w.stage.isBeforeListing = true) (name : String) :
    Shadows setup name s.roster.schedules.length s (s.only name) where
  shelf := ⟨rfl, rfl, rfl⟩
  climate := rfl
  watcher := ⟨w.cluster, w.stage, w.stage, hw, hw,
    WatcherStage.narrows_of_isBeforeListing hstage name⟩
  roster := hrun.isAccounted.mirrors ((hrun.awaits hw).isDrained hstage) name
  reports := rfl

/-! ## The trackers one by one -/

/-- What one of the trackers of a schedule handed to the sinks. -/
lemma filter_reportsFor (haccounted : s.roster.IsAccounted) {o : String × Token}
    (ho : s.roster.origins[index]? = some o) (hname : o.1 = name) :
    (s.reportsFor name).filter (·.1 == s.roster.rank name index) =
      ((s.trace.ofTask (.tracker index)).filterMap handed?).map (s.roster.rank name index, ·) := by
  unfold reportsFor Trace.ofTask
  rw [List.filter_filterMap, List.filterMap_map, List.map_filterMap, List.filterMap_filter]
  refine List.filterMap_congr fun entry _ => ?_
  obtain ⟨task, what⟩ := entry
  cases task with
  | watcher => simp [Roster.reportBy?]
  | tracker other =>
    by_cases hother : other = index
    · subst hother
      cases hhanded : what.handed? <;> simp [Roster.reportBy?, ho, hname, hhanded]
    · -- another tracker of the schedule has another place
      cases ho' : s.roster.origins[other]? with
      | none => simp [Roster.reportBy?, ho', hother]
      | some o' =>
        by_cases hname' : o'.1 = name
        · have hrank : s.roster.rank name other ≠ s.roster.rank name index :=
            fun hrank => hother (haccounted.index_eq_of_rank_eq ho' ho hname' hname hrank)
          cases hhanded : what.handed? <;>
            simp [Roster.reportBy?, ho', hname', hother, hhanded, hrank]
        · simp [Roster.reportBy?, ho', hname', hother]

/-- Whatever is handed to a sink is handed to it by some tracker of the schedule. -/
lemma exists_of_mem_reportsFor {handed : Nat × Nat × Report} (h : handed ∈ s.reportsFor name) :
    ∃ index o, s.roster.origins[index]? = some o ∧ o.1 = name ∧
      s.roster.rank name index = handed.1 := by
  obtain ⟨⟨task, what⟩, -, hreport⟩ := List.mem_filterMap.mp h
  cases task with
  | watcher => cases hreport
  | tracker index =>
    simp only [Roster.reportBy?] at hreport
    split at hreport
    next hany =>
      rw [Option.any_eq_true] at hany
      obtain ⟨o, ho, hname⟩ := hany
      obtain ⟨next, -, rfl⟩ := Option.map_eq_some_iff.mp hreport
      exact ⟨index, o, ho, beq_iff_eq.mp hname, rfl⟩
    next => cases hreport

/-- Trackers that showed the same handed the same to the sinks. -/
lemma Alike.filter_reportsFor_eq (h : Alike setup s s') (hrun : WatcherRun setup cluster s)
    (hrun' : WatcherRun setup cluster s') (name : String) (place : Nat) :
    (s.reportsFor name).filter (·.1 == place) = (s'.reportsFor name).filter (·.1 == place) := by
  have hrank (index : Nat) : s'.roster.rank name index = s.roster.rank name index := by
    unfold Roster.rank
    rw [h.same.origins]
  by_cases hplace : ∃ index o, s.roster.origins[index]? = some o ∧ o.1 = name ∧
      s.roster.rank name index = place
  · obtain ⟨index, o, ho, hname, rfl⟩ := hplace
    have hhanded : (s.trace.ofTask (.tracker index)).filterMap handed? =
        (s'.trace.ofTask (.tracker index)).filterMap handed? := by
      have hshown := h.shown index
      unfold System.shown at hshown
      rw [← filterMap_handed?_effect?, hshown, filterMap_handed?_effect?]
    have hfilter' := filter_reportsFor hrun'.isAccounted (h.same.origins ▸ ho) hname
    rw [hrank] at hfilter'
    rw [filter_reportsFor hrun.isAccounted ho hname, hfilter', hhanded]
  · have hnone {s : System} (hplace : ¬∃ index o, s.roster.origins[index]? = some o ∧ o.1 = name ∧
        s.roster.rank name index = place) : (s.reportsFor name).filter (·.1 == place) = [] := by
      rw [List.filter_eq_nil_iff]
      intro handed hmem hequal
      obtain ⟨index, o, ho, hname, hrank⟩ := exists_of_mem_reportsFor hmem
      exact hplace ⟨index, o, ho, hname, hrank.trans (beq_iff_eq.mp hequal)⟩
    refine (hnone hplace).trans (hnone ?_).symm
    rintro ⟨index, o, ho, hname, hat⟩
    exact hplace ⟨index, o, h.same.origins ▸ ho, hname, (hrank index).symm.trans hat⟩

namespace Session

/-- A watcher has yet to take in a listing, and the input comes in one at a time until the end of
the watcher's watch is seen. If the other schedules are left out of the listing and of the input,
and so are the events about backups of others, then some order of the steps gives the same reports
of the schedule in the same order, and in every order each of its trackers makes the same reports in
the same order and it is registered just the same. This is so after any number of inputs, so it is
so after each of them.

Without the trackers of others that the listing or the input would start, a tracker of the schedule
comes earlier. What comes in over its watch alone comes in there. -/
theorem isolated {w : Watcher} (hrun : WatcherRun setup cluster s) (hw : s.watchers = [w])
    (hstage : w.stage.isBeforeListing = true) (hfirst : Settles setup s first)
    (h : Session setup first inputs t) (hroles : inputs.filterMap Input.role? = [])
    (hopen : ⟨.watcher 0, .sawEnd .scheduledBackup⟩ ∉ t.since s) (name : String) :
    (∃ first' t', Settles setup (s.only name) first' ∧
      Session setup first' (inputs.filterMap
        (Input.only? name (t.roster.place? s.roster.schedules.length name))) t' ∧
      t'.reportsFor name = t.reportsFor name) ∧
    ∀ first' t', Settles setup (s.only name) first' →
      Session setup first' (inputs.filterMap
        (Input.only? name (t.roster.place? s.roster.schedules.length name))) t' →
      t'.roster.registry.contains name = t.roster.registry.contains name ∧
      ∀ place, (t'.reportsFor name).filter (·.1 == place) =
        (t.reportsFor name).filter (·.1 == place) := by
  have honly : LeadsTo setup s (s.only name) := .of_input setup s rfl
  have hrunonly := hrun.leadsTo honly
  rw [hfirst.leadsTo.since_trans (h.leadsTo hroles), List.mem_append, not_or] at hopen
  -- one session follows step by step
  obtain ⟨first', hfirst', hshadows⟩ := (hrun.shadows_only hw hstage name).exists_of_settles hrun
    hrunonly hfirst hopen.1
  have hrunfirst' := hrunonly.leadsTo hfirst'.leadsTo
  obtain ⟨t', h', hrest', hlater⟩ := hshadows.exists_session (hrun.leadsTo hfirst.leadsTo)
    hrunfirst' hfirst'.isAtRest h hroles hopen.2 (List.prefix_refl _)
  refine ⟨⟨first', t', hfirst', h', hlater.reports.symm⟩, fun first'' t'' hfirst'' h'' => ?_⟩
  -- and whatever the order of the steps is, the others come to the same
  have hturns : (s.only name).TakesTurns setup := by
    intro _ u hu _
    have hfinished := Roster.isDrained_iff.mp ((hrun.awaits hw).isDrained hstage) u hu
    obtain ⟨schedule, token, stage⟩ := u
    cases stage with
    | finished error => trivial
    | _ => cases hfinished
  have hrunfirst'' := hrunonly.leadsTo hfirst''.leadsTo
  have hconverges := (Converges.refl setup (s.only name)).of_settles hrunonly hrunonly hturns hturns
    hfirst'' hfirst'
  have hkeptroles : (inputs.filterMap (Input.only? name
      (t.roster.place? s.roster.schedules.length name))).filterMap Input.role? = [] :=
    Input.filterMap_role?_only? hroles
  obtain ⟨-, -, halike⟩ := (hconverges.alike hrunfirst'' hrunfirst' hfirst''.isAtRest
    hfirst'.isAtRest).session hrunfirst'' hrunfirst' hfirst''.isAtRest hfirst'.isAtRest h'' h'
    hkeptroles
  refine ⟨?_, fun place => ?_⟩
  · rw [halike.same.registry]
    exact hlater.roster.isSome_get?_eq.symm
  · rw [hlater.reports]
    exact halike.filter_reportsFor_eq (hrunfirst''.leadsTo (h''.leadsTo hkeptroles))
      (hrunfirst'.leadsTo (h'.leadsTo hkeptroles)) name place

end Session

end System

namespace Sample

/-- A backup of another schedule that failed. -/
def foreign : Object :=
  { backup "b0" [("phase", .string "failed"), ("error", .string "no space")] with
    owners := some [{ kind := "ScheduledBackup", name := "weekly" }] }

/-- A watcher has started and is about to list two schedules. -/
def toUnlisted : List Move :=
  [.input (.items .scheduledBackup
      [schedule (some "weekly") (.string "main"), schedule (some "nightly") (.string "main")]),
    .input (.start (.watcher "main"))]

/-- The system after these moves. -/
def unlisted : System :=
  systemAfter toUnlisted

/-- The steps by which the watcher and both trackers open their watches. -/
def openBoth : List TaskId :=
  List.replicate 5 (.watcher 0) ++ turns 0 5 ++ turns 1 5

/-- Both schedules have their trackers, which have opened their watches. -/
def bothTracked : System :=
  (unlisted.play setup (openBoth.map .step)).getD {}

/-- The tracker of one schedule is blocked in a sink when it is stopped, and the other tracker gets
to know of a failure in the meantime. -/
def disturbed : List (Input × List TaskId) :=
  [(.holdSinks true, []),
    (.event .backup { change := .modified, object := foreign }, turns 0 1 ++ turns 1 1),
    (.event .scheduledBackup
      { change := .deleted, object := schedule (some "weekly") (.string "main") }, [.watcher 0]),
    (.arrive (.tracker 0) (.event { change := .modified, object := shared "b1" "disk full" }), []),
    (.arrive (.tracker 1) (.event { change := .modified, object := shared "b1" "disk full" }),
      turns 1 1),
    (.holdSinks false, turns 0 3 ++ turns 1 2)]

/-- The system after these inputs. -/
def unblocked : System :=
  (bothTracked.session? setup disturbed).getD {}

/-- The steps by which the watcher and one tracker open their watches. -/
def openOne : List TaskId :=
  List.replicate 5 (.watcher 0) ++ turns 0 5

/-- One schedule has its tracker, if there is no other. -/
def oneTracked : System :=
  ((unlisted.only "nightly").play setup (openOne.map .step)).getD {}

/-- What happens to one schedule, if there is no other. -/
def undisturbed : List (Input × List TaskId) :=
  [(.holdSinks true, []),
    (.arrive (.tracker 0) (.event { change := .modified, object := shared "b1" "disk full" }),
      turns 0 1),
    (.holdSinks false, turns 0 2)]

/-- The system after these inputs. -/
def alone : System :=
  (oneTracked.session? setup undisturbed).getD {}

end Sample

/-- A schedule fails while the tracker of another one is blocked in a sink and is stopped. Without
the other schedule it makes the same two reports, one to each sink, and is still registered; its
tracker is then the first and not the second one. -/
theorem System.isolated_blocked :
    WatcherRun Sample.setup "main" Sample.unlisted ∧
      Settles Sample.setup Sample.unlisted Sample.bothTracked ∧
      Session Sample.setup Sample.bothTracked (Sample.disturbed.map (·.1)) Sample.unblocked ∧
      (Sample.disturbed.map (·.1)).filterMap (Input.only? "nightly"
        (Sample.unblocked.roster.place? Sample.unlisted.roster.schedules.length "nightly")) =
          Sample.undisturbed.map (·.1) ∧
      Session Sample.setup Sample.oneTracked (Sample.undisturbed.map (·.1)) Sample.alone ∧
      Sample.unblocked.reportsFor "nightly" = [(0, 0, Sample.full), (0, 1, Sample.full)] ∧
      Sample.unblocked.trace.deliveries.length = 4 ∧
      (∀ place, (Sample.alone.reportsFor "nightly").filter (·.1 == place) =
        (Sample.unblocked.reportsFor "nightly").filter (·.1 == place)) ∧
      Sample.alone.roster.registry.contains "nightly" =
        Sample.unblocked.roster.registry.contains "nightly" ∧
      Sample.unblocked.roster.registry.names = ["nightly"] := by
  have hrun : WatcherRun Sample.setup "main" Sample.unlisted :=
    ⟨Sample.toUnlisted, rfl, rfl⟩
  have hfirst : Settles Sample.setup Sample.unlisted Sample.bothTracked :=
    ⟨Sample.openBoth, rfl, rfl⟩
  have h : Session Sample.setup Sample.bothTracked (Sample.disturbed.map (·.1)) Sample.unblocked :=
    Session.start.of_session? Sample.disturbed rfl
  have hroles : (Sample.disturbed.map (·.1)).filterMap Input.role? = [] := rfl
  have hopen : ⟨.watcher 0, .sawEnd .scheduledBackup⟩ ∉ Sample.unblocked.since Sample.unlisted := by
    intro hmem
    have hnever : (Sample.unblocked.since Sample.unlisted).all
        (fun entry => match entry.what with | .sawEnd _ => false | _ => true) = true := rfl
    exact Bool.false_ne_true (List.all_eq_true.mp hnever _ hmem)
  have hfirst' : Settles Sample.setup (Sample.unlisted.only "nightly") Sample.oneTracked :=
    ⟨Sample.openOne, rfl, rfl⟩
  have h' : Session Sample.setup Sample.oneTracked (Sample.undisturbed.map (·.1)) Sample.alone :=
    Session.start.of_session? Sample.undisturbed rfl
  obtain ⟨-, hall⟩ := Session.isolated hrun rfl rfl hfirst h hroles hopen "nightly"
  obtain ⟨hregistered, hreports⟩ := hall _ _ hfirst' h'
  exact ⟨hrun, hfirst, h, rfl, h', rfl, rfl, hreports, hregistered, rfl⟩

end BackupMonitor
