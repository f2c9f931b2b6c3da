import BackupMonitor.Proofs.Cancellation
import BackupMonitor.Proofs.FeedOrder
import BackupMonitor.Proofs.Registrations

/-!
# One live tracker per schedule

In the run of a watcher, several trackers of one schedule can be there at a time: one that was
stopped may still be handing out a report when its schedule has come back. But only one of them is
live, and the others wind down. So of the trackers for which an event comes in, at most one of each
schedule takes it (`WatcherRun.others_take_nothing`), and it takes it in its turn
(`System.exists_eventsTaken_eq`).
-/

namespace BackupMonitor

open Occurrence

namespace Roster.IsAccounted

variable {r : Roster} {index other : Nat} {t u : Tracker}

/-- The token of a live tracker is the one that is registered. -/
lemma get?_of_live (h : r.IsAccounted) (ht : r.trackers[index]? = some t)
    (hlive : r.tokens.isCancelled t.token = false) : r.registry.get? t.schedule = some t.token := by
  have horigin : t.origin ∈ r.origins := List.mem_map_of_mem (List.mem_of_getElem? ht)
  exact ((h.isCancelled_eq_false_iff horigin).mp hlive).1

/-- No two trackers of a schedule are live. -/
lemma index_eq_of_live (h : r.IsAccounted) (ht : r.trackers[index]? = some t)
    (hu : r.trackers[other]? = some u) (hschedule : u.schedule = t.schedule)
    (htlive : r.tokens.isCancelled t.token = false)
    (hulive : r.tokens.isCancelled u.token = false) : other = index := by
  have htget := h.get?_of_live ht htlive
  have huget := h.get?_of_live hu hulive
  rw [hschedule, htget] at huget
  have htoken : u.token = t.token := (Option.some.inj huget).symm
  exact h.index_eq_of_token_eq (getElem?_origins_eq_some_iff.mpr ⟨u, hu, rfl, rfl⟩)
    (getElem?_origins_eq_some_iff.mpr ⟨t, ht, rfl, rfl⟩) htoken

end Roster.IsAccounted

namespace System

variable {setup : Setup} {cluster : String} {s later : System} {index other : Nat} {t u : Tracker}
  {feed : Feed} {place : Nat}

/-! ## What a tracker takes and reports -/

/-- The events that a tracker took, oldest first. -/
def eventsTaken (s : System) (index : Nat) : List Event :=
  (s.trace.ofTask (.tracker index)).filterMap event?

/-- The reports that a sink has had of a tracker or is still to have, oldest first. -/
def reportsOf (s : System) (index place : Nat) : List Report :=
  Delivery.reportsAt place ((s.trace.ofTask (.tracker index)).filterMap delivery?) ++
    match s.roster.trackers[index]? with
    | some t => t.stage.dueAt place
    | none => []

/-- What a tracker reports is what the events that it took make one by one. -/
lemma reportsOf_eq (h : Reachable setup s) (ht : s.roster.trackers[index]? = some t)
    (hplace : place < setup.sinks.length) :
    s.reportsOf index place = (s.eventsTaken index).filterMap (Event.report? t.schedule) := by
  unfold reportsOf
  rw [ht]
  exact (h.history ht).handed_append_due hplace

/-- A tracker stays in its place, for the same schedule. -/
lemma exists_tracker_of_play {moves : List Move} (h : s.play setup moves = some later)
    (ht : s.roster.trackers[index]? = some t) :
    ∃ u, later.roster.trackers[index]? = some u ∧ u.schedule = t.schedule := by
  refine tracker_of_play (P := fun u _ => u.schedule = t.schedule) ?_ h ht rfl
  intro cancelled u v past did count hmoves hschedule
  exact (congrArg Prod.fst hmoves.origin_eq).trans hschedule

/-! ## An event that comes in -/

/-- An event comes in for a tracker with an open watch in `s`, and by `later` the tracker has taken
more events than those that were waiting for it in `s`: it has taken this one as well. -/
structure Handles (s later : System) (index : Nat) (t : Tracker) (feed : Feed) : Prop where
  /-- The tracker is there. -/
  tracker : s.roster.trackers[index]? = some t
  /-- It has a watch. -/
  watching : t.feed? = some feed
  /-- The watch has not ended. -/
  isOpen : feed.closed = false
  /-- The tracker has taken enough events. -/
  took : (s.eventsTaken index).length + feed.queue.length < (later.eventsTaken index).length

/-- Whatever happens later, an event that comes in waits for the tracker behind those that were
waiting for it, until the tracker takes it or finishes. -/
lemma exists_receives {event : Event} {moves : List Move}
    (hplay : (s.apply (.event .backup event)).play setup moves = some later)
    (ht : s.roster.trackers[index]? = some t) (hfeed : t.feed? = some feed)
    (hopen : feed.closed = false) :
    ∃ u, Tracker.Receives (s.eventsTaken index ++ feed.queue ++ [event])
      (later.eventsTaken index) u := by
  have hpushed : (s.apply (.event .backup event)).roster.trackers[index]? =
      some (t.updateFeed (·.push event)) := by
    rw [apply, getElem?_trackers_withFeeds, ht]
    rfl
  have hqueue : s.eventsTaken index ++ (feed.push event).queue =
      s.eventsTaken index ++ feed.queue ++ [event] ++ [] := by
    unfold Feed.push
    rw [hopen, List.append_nil, List.append_assoc]
    rfl
  have hreceives : Tracker.Receives (s.eventsTaken index ++ feed.queue ++ [event])
      (s.eventsTaken index) (t.updateFeed (·.push event)) :=
    .waits (by rw [Tracker.feed?_updateFeed, hfeed]; rfl) hqueue
  obtain ⟨u, -, hlater⟩ := tracker_of_play
    (P := fun u past => Tracker.Receives (s.eventsTaken index ++ feed.queue ++ [event])
      (past.filterMap event?) u)
    (fun hmoves hreceives => by rw [List.filterMap_append]; exact hmoves.receives hreceives)
    hplay hpushed (by rw [trace_apply]; exact hreceives)
  exact ⟨u, hlater⟩

/-- A tracker takes an event after those that were waiting for it when the event came in. -/
lemma exists_eventsTaken_eq {event : Event} {moves : List Move}
    (hplay : (s.apply (.event .backup event)).play setup moves = some later)
    (h : Handles s later index t feed) :
    ∃ more, later.eventsTaken index = s.eventsTaken index ++ feed.queue ++ event :: more := by
  obtain ⟨u, hreceives⟩ := exists_receives hplay h.tracker h.watching h.isOpen
  have htook := h.took
  obtain ⟨more, hmore⟩ := hreceives.isPrefix (by
    simp only [List.length_append, List.length_singleton]
    exact htook)
  exact ⟨more, by rw [← hmore, List.append_assoc, List.singleton_append]⟩

/-- A tracker takes the event, or takes nothing but what was waiting for it. -/
lemma handles_or_isPrefix {event : Event} {moves : List Move}
    (hplay : (s.apply (.event .backup event)).play setup moves = some later)
    (ht : s.roster.trackers[index]? = some t) (hfeed : t.feed? = some feed)
    (hopen : feed.closed = false) :
    Handles s later index t feed ∨
      later.eventsTaken index <+: s.eventsTaken index ++ feed.queue := by
  obtain ⟨u, hreceives⟩ := exists_receives hplay ht hfeed hopen
  by_cases htook : (s.eventsTaken index).length + feed.queue.length <
      (later.eventsTaken index).length
  · exact .inl ⟨ht, hfeed, hopen, htook⟩
  · right
    rcases hreceives.isPrefix_or_isPrefix (List.prefix_append _ _) with hwaiting | htaken
    · -- it took at least those, and no more than their number
      have hall := hwaiting.eq_of_length_le (by rw [List.length_append]; omega)
      exact hall ▸ List.prefix_rfl
    · exact htaken

/-! ## Trackers at their end -/

/-- A tracker at its end takes no further event. -/
lemma eventsTaken_eq_of_isEnding {moves : List Move} (hreach : Reachable setup s)
    (hplay : s.play setup moves = some later) (ht : s.roster.trackers[index]? = some t)
    (hending : s.IsEnding t) : later.eventsTaken index = s.eventsTaken index := by
  obtain ⟨u, did, -, -, hdid, hwinds⟩ := windsDown_of_play hreach hplay ht hending
  have hnone : did.filterMap event? = [] := by
    rw [List.filterMap_eq_nil_iff]
    intro what hwhat
    have hdown := hwinds.isWindDown what hwhat
    cases what <;> first | rfl | cases hdown
  unfold eventsTaken
  rw [hdid, List.filterMap_append, hnone, List.append_nil]

/-- If a tracker takes an event, the other trackers of its schedule are at their end. -/
lemma WatcherRun.isEnding_of_handles (h : WatcherRun setup cluster s) {moves : List Move}
    (hplay : s.play setup moves = some later) (hhandles : Handles s later index t feed)
    (hu : s.roster.trackers[other]? = some u) (hschedule : u.schedule = t.schedule)
    (hother : other ≠ index) : s.IsEnding u := by
  have htlive : s.roster.tokens.isCancelled t.token = false := by
    rw [Bool.eq_false_iff]
    intro hcancel
    have htook := hhandles.took
    rw [eventsTaken_eq_of_isEnding h.reachable hplay hhandles.tracker (.inl hcancel)] at htook
    omega
  cases hcancel : s.roster.tokens.isCancelled u.token with
  | true => exact .inl hcancel
  | false =>
    have hsame := h.isAccounted.index_eq_of_live hhandles.tracker hu hschedule htlive hcancel
    exact absurd hsame hother

/-- If a tracker takes an event, the other trackers of its schedule take no further event and have
nothing further to report. -/
lemma WatcherRun.others_take_nothing (h : WatcherRun setup cluster s) {moves : List Move}
    (hplay : s.play setup moves = some later) (hhandles : Handles s later index t feed)
    (hu : s.roster.trackers[other]? = some u) (hschedule : u.schedule = t.schedule)
    (hother : other ≠ index) :
    later.eventsTaken other = s.eventsTaken other ∧
      ∀ place < setup.sinks.length, later.reportsOf other place = s.reportsOf other place := by
  have hending := h.isEnding_of_handles hplay hhandles hu hschedule hother
  have htaken := eventsTaken_eq_of_isEnding h.reachable hplay hu hending
  refine ⟨htaken, fun place hplace => ?_⟩
  obtain ⟨v, hv, hvschedule⟩ := exists_tracker_of_play hplay hu
  rw [reportsOf_eq (h.reachable.play hplay) hv hplace, reportsOf_eq h.reachable hu hplace, htaken,
    hvschedule]

/-- In the run of a watcher:

* A tracker whose token is not cancelled is the only one of its schedule, and the registry holds its
  token.
* There were as many trackers of a schedule as there were moves that made the schedule registered.
* If an event comes in over the open watches, at most one tracker of each schedule takes it; a
  tracker that does not takes nothing but what was waiting for it. The one that does takes it after
  what was waiting, and it makes as many reports as it would alone: one or none. The other trackers
  of the schedule take nothing further and report nothing further. -/
theorem one_live_tracker {moves : List Move}
    (hroles : moves.filterMap Move.role? = [.watcher cluster])
    (hplay : ({} : System).play setup moves = some s) :
    (∀ (index : Nat) (t : Tracker), s.roster.trackers[index]? = some t →
      s.roster.tokens.isCancelled t.token = false →
      s.roster.registry.get? t.schedule = some t.token ∧
      ∀ (other : Nat) (u : Tracker), s.roster.trackers[other]? = some u →
        u.schedule = t.schedule → s.roster.tokens.isCancelled u.token = false → other = index) ∧
    (∀ name, s.roster.spawned name = registrations setup name {} moves) ∧
    ∀ (event : Event) (later : System), LeadsTo setup (s.apply (.event .backup event)) later →
      (∀ (index : Nat) (t : Tracker) (feed : Feed), s.roster.trackers[index]? = some t →
        t.feed? = some feed → feed.closed = false → Handles s later index t feed ∨
          later.eventsTaken index <+: s.eventsTaken index ++ feed.queue) ∧
      ∀ (index : Nat) (t : Tracker) (feed : Feed), Handles s later index t feed →
        (∀ (other : Nat) (u : Tracker) (feed' : Feed), Handles s later other u feed' →
          u.schedule = t.schedule → other = index) ∧
        (∃ more, later.eventsTaken index = s.eventsTaken index ++ feed.queue ++ event :: more ∧
          ∀ place < setup.sinks.length, later.reportsOf index place =
            (s.eventsTaken index ++ feed.queue).filterMap (Event.report? t.schedule) ++
              (event.report? t.schedule).toList ++ more.filterMap (Event.report? t.schedule)) ∧
        ∀ (other : Nat) (u : Tracker), s.roster.trackers[other]? = some u →
          u.schedule = t.schedule → other ≠ index →
          later.eventsTaken other = s.eventsTaken other ∧
          ∀ place < setup.sinks.length, later.reportsOf other place = s.reportsOf other place := by
  have h : WatcherRun setup cluster s := ⟨moves, hroles, hplay⟩
  refine ⟨?_, ?_, ?_⟩
  · intro index t ht hlive
    exact ⟨h.isAccounted.get?_of_live ht hlive, fun other u hu hschedule hulive =>
      h.isAccounted.index_eq_of_live ht hu hschedule hlive hulive⟩
  · intro name
    have hnone : ∀ move ∈ moves, ∀ schedule, move.role? ≠ some (.tracker schedule) := by
      intro move hmove schedule hrole
      have hmem : Role.tracker schedule ∈ moves.filterMap Move.role? :=
        List.mem_filterMap.mpr ⟨move, hmove, hrole⟩
      rw [hroles] at hmem
      simp at hmem
    rw [spawned_eq_registrations hplay hnone name]
    exact Nat.zero_add _
  · intro event later hlater
    obtain ⟨rest, -, hrest⟩ := hlater
    refine ⟨fun index t feed ht hfeed hopen => handles_or_isPrefix hrest ht hfeed hopen, ?_⟩
    intro index t feed hhandles
    have hevent : s.play setup (.input (.event .backup event) :: rest) = some later := hrest
    refine ⟨fun other u feed' hother hschedule => ?_, ?_, fun other u hu hschedule hne => ?_⟩
    · refine Decidable.byContradiction fun hne => ?_
      have hsame := (h.others_take_nothing hevent hhandles hother.tracker hschedule hne).1
      have htook := hother.took
      rw [hsame] at htook
      omega
    · obtain ⟨more, hmore⟩ := exists_eventsTaken_eq hrest hhandles
      refine ⟨more, hmore, fun place hplace => ?_⟩
      obtain ⟨u, hu, hschedule⟩ := exists_tracker_of_play hevent hhandles.tracker
      rw [reportsOf_eq (h.reachable.play hevent) hu hplace, hmore, hschedule, List.filterMap_append,
        List.append_assoc]
      congr 1
      rw [List.filterMap_cons]
      cases event.report? t.schedule <;> rfl
    · exact h.others_take_nothing hevent hhandles hu hschedule hne

end System

namespace Sample

/-- The tracker that was started then gets as far as its open watch. -/
def overlapping : List Move :=
  replaced ++ List.replicate 5 (.step (.tracker 1))

/-- The stopped tracker, blocked in the first sink. -/
def blocked : Tracker where
  schedule := "nightly"
  token := 1
  stage := .delivering {} ∅ (.failure "backup failed: disk full") 0

/-- The new tracker, which follows the backups. -/
def successor : Tracker where
  schedule := "nightly"
  token := 2
  stage := .following {} ∅

/-- The failure of another backup. -/
def failure : Event where
  change := .modified
  object := failed "b2"

/-- The new tracker takes the event that has come in. The sinks are released, and both trackers hand
out what they have to report. -/
def released : List Move :=
  .step (.tracker 1) :: .input (.holdSinks false) :: steps 3 ++
    List.replicate 2 (.step (.tracker 1))

/-- The system in which that event has come in, some time later. -/
def handed : System :=
  systemAfter (overlapping ++ .input (.event .backup failure) :: released)

end Sample

/-- An event comes in while the stopped tracker of a schedule is blocked in a sink with its watch
open, and the new one is following. It is reported once, by the new one. -/
theorem System.one_live_tracker_overlapping :
    (Sample.systemAfter Sample.overlapping).roster.trackers = [Sample.blocked, Sample.successor] ∧
      (Sample.systemAfter Sample.overlapping).roster.registry.get? "nightly" = some 2 ∧
      (Sample.systemAfter Sample.overlapping).roster.spawned "nightly" = 2 ∧
      Handles (Sample.systemAfter Sample.overlapping) Sample.handed 1 Sample.successor {} ∧
      (∀ place < 2, Sample.handed.reportsOf 1 place = [.failure "backup failed: disk full"]) ∧
      ∀ place < 2, Sample.handed.reportsOf 0 place =
        (Sample.systemAfter Sample.overlapping).reportsOf 0 place := by
  have hroles : Sample.overlapping.filterMap Move.role? = [.watcher "main"] := rfl
  have hplay : ({} : System).play Sample.setup Sample.overlapping =
      some (Sample.systemAfter Sample.overlapping) := rfl
  have hlater : LeadsTo Sample.setup
      ((Sample.systemAfter Sample.overlapping).apply (.event .backup Sample.failure))
      Sample.handed := ⟨Sample.released, rfl, rfl⟩
  have hblocked : (Sample.systemAfter Sample.overlapping).roster.trackers[0]? =
      some Sample.blocked := rfl
  have hsuccessor : (Sample.systemAfter Sample.overlapping).roster.trackers[1]? =
      some Sample.successor := rfl
  have htaken : Sample.handed.eventsTaken 1 = [Sample.failure] := rfl
  have hhandles : Handles (Sample.systemAfter Sample.overlapping) Sample.handed 1
      Sample.successor {} :=
    ⟨hsuccessor, rfl, rfl, by rw [htaken]; exact Nat.one_pos⟩
  obtain ⟨hlive, hspawned, hevents⟩ := System.one_live_tracker hroles hplay
  obtain ⟨-, ⟨more, hmore, hreports⟩, hothers⟩ := (hevents _ _ hlater).2 1 _ _ hhandles
  obtain rfl : [] = more := (List.cons.inj (htaken.symm.trans hmore)).2
  exact ⟨rfl, (hlive 1 _ hsuccessor rfl).1, (hspawned "nightly").trans rfl, hhandles, hreports,
    (hothers 0 _ hblocked rfl (by simp)).2⟩

end BackupMonitor
