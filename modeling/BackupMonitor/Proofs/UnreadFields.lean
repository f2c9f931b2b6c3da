import BackupMonitor.Proofs.FieldsRead

/-!
# Runs that read alike

Two runs in which the same happens, but for events of backups that differ in what no tracker reads,
go on step by step in the same way. `System.ReadsAlike` relates their states: a step leads from
systems that read alike to systems that read alike (`System.ReadsAlike.step`), and so does a run
(`System.ReadsAlike.play`).
-/

namespace BackupMonitor

open Occurrence

/-! ## Rosters that read alike -/

namespace Roster

/-- What the trackers have in their watches reads alike to these feeds. -/
def WatchesReadAlike (r : Roster) (feeds : Nat → Feed) : Prop :=
  ∀ (index : Nat) (t : Tracker) (feed : Feed), r.trackers[index]? = some t →
    t.feed? = some feed → feed.ReadsAlike t.schedule (feeds index)

/-- Two rosters are the same but for what the trackers have in their watches, and that reads
alike. -/
def ReadsAlike (r r' : Roster) : Prop :=
  ∃ feeds : Nat → Feed, r' = r.withFeeds (fun index _ => feeds index) ∧ r.WatchesReadAlike feeds

namespace ReadsAlike

variable {r r' after : Roster}

/-- Trackers that were started have no watch yet. -/
lemma of_extends {feeds : Nat → Feed} (h : r.WatchesReadAlike feeds) (hextends : r.Extends after) :
    after.ReadsAlike (after.withFeeds fun index _ => feeds index) := by
  obtain ⟨fresh, htrackers, hfresh⟩ := hextends
  refine ⟨feeds, rfl, fun index t feed ht hfeed => ?_⟩
  rw [htrackers, List.getElem?_append] at ht
  split at ht
  · exact h index t feed ht hfeed
  · have hspawned := hfresh t (List.mem_of_getElem? ht)
    rw [Tracker.feed?, hspawned] at hfeed
    cases hfeed

/-- Trackers that get to the same stage, with watches that read alike. -/
lemma setStage (h : r.ReadsAlike r') {index : Nat} {t : Tracker}
    (ht : r.trackers[index]? = some t) {stage : TrackerStage} {next' : Feed}
    (hnext : ∀ next, Tracker.feed? { t with stage } = some next →
      next.ReadsAlike t.schedule next') :
    (r.setStage index stage).ReadsAlike
      (r'.setStage index (Tracker.updateFeed { t with stage } fun _ => next').stage) := by
  obtain ⟨feeds, rfl, hfeeds⟩ := h
  refine ⟨Function.update feeds index next', ?_, fun other u feed hu hfeed => ?_⟩
  · rw [withFeeds_setStage (F := fun index _ => feeds index) (fun other hne => ?_) ht]
    · simp only [Function.update_self]
    · simp only [Function.update_of_ne hne]
  · rw [trackers_setStage, List.getElem?_modify] at hu
    by_cases hindex : index = other
    · subst hindex
      simp only [ht, if_true, Option.map_eq_map, Option.map_some, Option.some.injEq] at hu
      subst hu
      rw [Function.update_self]
      exact hnext feed hfeed
    · rw [Function.update_of_ne (Ne.symm hindex)]
      refine hfeeds other u feed ?_ hfeed
      simpa [hindex] using hu

/-- What comes in over the watches may differ as far as it reads alike. -/
lemma withFeeds (h : r.ReadsAlike r') {F F' : Nat → Feed → Feed}
    (hF : ∀ index, ∀ t ∈ r.trackers, ∀ feed feed' : Feed, feed.ReadsAlike t.schedule feed' →
      (F index feed).ReadsAlike t.schedule (F' index feed')) :
    (r.withFeeds F).ReadsAlike (r'.withFeeds F') := by
  obtain ⟨feeds, rfl, hfeeds⟩ := h
  refine ⟨fun index => F' index (feeds index), ?_, fun index u feed hu hfeed => ?_⟩
  · rw [withFeeds_withFeeds, withFeeds_withFeeds]
    rfl
  · rw [getElem?_withFeeds, Option.map_eq_some_iff] at hu
    obtain ⟨t, ht, rfl⟩ := hu
    rw [Tracker.feed?_updateFeed, Option.map_eq_some_iff] at hfeed
    obtain ⟨old, hold, rfl⟩ := hfeed
    rw [Tracker.schedule_updateFeed]
    exact hF index t (List.mem_of_getElem? ht) old _ (hfeeds index t old ht hold)

end ReadsAlike

end Roster

/-! ## Systems that read alike -/

/-- An entry of a trace, of an event only the change and the name. -/
def Entry.gist (entry : Entry) : Entry :=
  { entry with what := entry.what.gist }

namespace System

variable {setup : Setup} {s s' next : System}

/-- Two systems are the same but for what the trackers do not read: of the events that wait in their
watches, and of those that the tasks took. -/
structure ReadsAlike (s s' : System) : Prop where
  /-- The server is the same. -/
  server : s.server = s'.server
  /-- The sinks are held in both or in none. -/
  sinksHeld : s.sinksHeld = s'.sinksHeld
  /-- The rosters read alike. -/
  roster : s.roster.ReadsAlike s'.roster
  /-- The watchers are the same. -/
  watchers : s.watchers = s'.watchers
  /-- The tasks did the same. -/
  trace : s'.trace.map Entry.gist = s.trace.map Entry.gist

/-- A projection that does not depend on what the trackers do not read. -/
lemma filterMap_gist {α : Type} (f : Entry → Option α) (hf : ∀ entry, f entry.gist = f entry)
    {trace trace' : Trace} (h : trace'.map Entry.gist = trace.map Entry.gist) :
    trace'.filterMap f = trace.filterMap f := by
  have hgist (trace : Trace) : (trace.map Entry.gist).filterMap f = trace.filterMap f := by
    rw [List.filterMap_map]
    exact List.filterMap_congr fun entry _ => hf entry
  rw [← hgist, h, hgist]

lemma serverAfter_gist (server : Server) {did did' : List Occurrence}
    (h : did'.map gist = did.map gist) : serverAfter server did' = serverAfter server did := by
  have hgist (did : List Occurrence) :
      serverAfter server (did.map gist) = serverAfter server did := by
    unfold serverAfter
    rw [List.foldl_map]
    congr 1
    funext server what
    cases what <;> rfl
  rw [← hgist, h, hgist]

lemma failureLog_gist (s : System) {did did' : List Occurrence}
    (h : did'.map gist = did.map gist) : s.failureLog did' = s.failureLog did := by
  have hgist (did : List Occurrence) : s.failureLog (did.map gist) = s.failureLog did := by
    unfold failureLog
    split
    · rfl
    · rw [List.filterMap_map]
      exact List.filterMap_congr fun what _ => by cases what <;> rfl
  rw [← hgist, h, hgist]

namespace ReadsAlike

lemma deliveries (h : s.ReadsAlike s') : s'.trace.deliveries = s.trace.deliveries :=
  filterMap_gist _ (fun entry => by obtain ⟨task, what⟩ := entry; cases what <;> rfl) h.trace

lemma log (h : s.ReadsAlike s') : s'.trace.log = s.trace.log :=
  filterMap_gist _ (fun entry => by obtain ⟨task, what⟩ := entry; cases what <;> rfl) h.trace

lemma measurements (h : s.ReadsAlike s') : s'.trace.measurements = s.trace.measurements :=
  filterMap_gist _ (fun entry => by obtain ⟨task, what⟩ := entry; cases what <;> rfl) h.trace

lemma seesAlike (h : s.ReadsAlike s') (setup : Setup) (token : Token) :
    Tracker.SeesAlike (s.view setup token) (s'.view setup token) where
  setup := rfl
  server := h.server
  sinksHeld := h.sinksHeld
  cancelled := by
    obtain ⟨feeds, hroster, -⟩ := h.roster
    show s.roster.tokens.isCancelled token = s'.roster.tokens.isCancelled token
    rw [hroster]
    rfl
  earlier := h.deliveries.symm

/-- Systems in which a task does the same, as far as the trackers read it, read alike afterwards. -/
lemma record (h : s.ReadsAlike s') (task : TaskId) {did did' : List Occurrence}
    (hdid : did'.map gist = did.map gist) :
    (s.record task did).ReadsAlike (s'.record task did') where
  server := by
    show serverAfter s.server did = serverAfter s'.server did'
    rw [← h.server, serverAfter_gist _ hdid]
  sinksHeld := h.sinksHeld
  roster := h.roster
  watchers := h.watchers
  trace := by
    have hentries (did : List Occurrence) :
        (did.map (Entry.mk task)).map Entry.gist = (did.map gist).map (Entry.mk task) := by
      rw [List.map_map, List.map_map]
      rfl
    show (s'.trace ++ did'.map (Entry.mk task)).map Entry.gist =
      (s.trace ++ did.map (Entry.mk task)).map Entry.gist
    rw [List.map_append, List.map_append, hentries, hentries, h.trace, hdid]

/-- What comes in over the watches of the trackers reads alike, and that over the watches of the
watchers is the same. -/
lemma withFeeds (h : s.ReadsAlike s') {F F' : TaskId → Feed → Feed}
    (hwatchers : ∀ index, F (.watcher index) = F' (.watcher index))
    (hF : ∀ index, ∀ t ∈ s.roster.trackers, ∀ feed feed' : Feed, feed.ReadsAlike t.schedule feed' →
      (F (.tracker index) feed).ReadsAlike t.schedule (F' (.tracker index) feed')) :
    (s.withFeeds F).ReadsAlike (s'.withFeeds F') where
  server := h.server
  sinksHeld := h.sinksHeld
  roster := h.roster.withFeeds hF
  watchers := by simp only [System.withFeeds, h.watchers, hwatchers]
  trace := h.trace

/-- The same comes in over the watches. -/
lemma withFeeds_self (h : s.ReadsAlike s') {F : TaskId → Feed → Feed}
    (hF : ∀ task schedule (feed feed' : Feed), feed.ReadsAlike schedule feed' →
      (F task feed).ReadsAlike schedule (F task feed')) :
    (s.withFeeds F).ReadsAlike (s'.withFeeds F) :=
  h.withFeeds (fun _ => rfl) fun index t _ => hF (.tracker index) t.schedule

/-- The same comes in over the watches of a kind. -/
lemma withFeeds_feedsOf (h : s.ReadsAlike s') (kind : ResourceKind) {f : Feed → Feed}
    (hf : ∀ schedule (feed feed' : Feed), feed.ReadsAlike schedule feed' →
      (f feed).ReadsAlike schedule (f feed')) :
    (s.withFeeds (feedsOf kind f)).ReadsAlike (s'.withFeeds (feedsOf kind f)) := by
  refine h.withFeeds_self fun task schedule _ _ hfeed => ?_
  unfold feedsOf
  split
  · exact hf schedule _ _ hfeed
  · exact hfeed

/-- Events that read alike to every tracker come in. -/
lemma event (h : s.ReadsAlike s') {event event' : Event}
    (hevent : ∀ t ∈ s.roster.trackers, event.ReadsAlike t.schedule event') :
    (s.apply (.event .backup event)).ReadsAlike (s'.apply (.event .backup event')) :=
  h.withFeeds (fun _ => rfl) fun _ t ht _ _ hfeed => hfeed.push (hevent t ht)

/-- Events that read alike to every tracker come in over the watch of one of them. -/
lemma arrive (h : s.ReadsAlike s') (index : Nat) {event event' : Event}
    (hevent : ∀ t ∈ s.roster.trackers, event.ReadsAlike t.schedule event') :
    (s.apply (.arrive (.tracker index) (.event event))).ReadsAlike
      (s'.apply (.arrive (.tracker index) (.event event'))) := by
  refine h.withFeeds (fun _ => rfl) fun other t ht _ _ hfeed => ?_
  unfold feedOf
  split
  · exact hfeed.push (hevent t ht)
  · exact hfeed

/-- The same input comes in. -/
lemma apply (h : s.ReadsAlike s') (input : Input) :
    (s.apply input).ReadsAlike (s'.apply input) := by
  obtain ⟨server, held, roster, watchers, trace⟩ := s
  obtain ⟨server', held', roster', watchers', trace'⟩ := s'
  obtain ⟨rfl, rfl, hroster, rfl, htrace⟩ := h
  have halike : ReadsAlike ⟨server, held, roster, watchers, trace⟩
    ⟨server, held, roster', watchers, trace'⟩ := ⟨rfl, rfl, hroster, rfl, htrace⟩
  cases input with
  | start role =>
    cases role with
    | tracker schedule =>
      refine ⟨rfl, rfl, ?_, rfl, htrace⟩
      obtain ⟨feeds, rfl, hfeeds⟩ := hroster
      let fresh : Tracker := { schedule, token := Tokens.root }
      have hextends : roster.Extends { roster with trackers := roster.trackers ++ [fresh] } :=
        ⟨[fresh], rfl, by simp [fresh]⟩
      have hstarted := Roster.ReadsAlike.of_extends hfeeds hextends
      simp only [Roster.withFeeds, List.mapIdx_append] at hstarted
      exact hstarted
    | watcher cluster => exact ⟨rfl, rfl, hroster, rfl, htrace⟩
  | event kind event =>
    exact halike.withFeeds_feedsOf kind fun schedule _ _ hfeed => hfeed.push (.refl schedule event)
  | close kind =>
    exact halike.withFeeds_feedsOf kind fun _ _ _ hfeed => hfeed.close
  | arrive other arrival =>
    refine halike.withFeeds_self fun task schedule _ _ hfeed => ?_
    unfold feedOf
    split
    · exact hfeed.add arrival
    · exact hfeed
  | cancel =>
    obtain ⟨feeds, rfl, hfeeds⟩ := hroster
    exact ⟨rfl, rfl, ⟨feeds, rfl, hfeeds⟩, rfl, htrace⟩
  | _ => exact ⟨rfl, rfl, hroster, rfl, htrace⟩

/-- What a task can do in one system it can do in the other, and they read alike afterwards. -/
theorem step (h : s.ReadsAlike s') {task : TaskId} (hstep : s.step setup task = some next) :
    ∃ next', s'.step setup task = some next' ∧ next.ReadsAlike next' := by
  obtain ⟨feeds, hroster, hfeeds⟩ := h.roster
  cases task with
  | watcher index =>
    obtain ⟨w, change, hw, hchange, rfl⟩ := step_watcher_eq_some hstep
    have hchange' : w.step (s'.view setup Tokens.root) s'.roster =
        some { change with roster := change.roster.withFeeds fun index _ => feeds index } := by
      have hview := h.seesAlike setup Tokens.root
      rw [hroster, Watcher.step_withFeeds, ← Watcher.step_eq_of_seesAlike
        ⟨hview.setup, congrArg Server.schedules hview.server, hview.cancelled⟩, hchange]
      rfl
    have hmoved : ReadsAlike
        { s with
          roster := change.roster
          watchers := s.watchers.modify index ({ · with stage := change.stage }) }
        { s' with
          roster := change.roster.withFeeds fun index _ => feeds index
          watchers := s'.watchers.modify index ({ · with stage := change.stage }) } :=
      ⟨h.server, h.sinksHeld,
        .of_extends hfeeds (Watcher.step_cases hchange).extends_roster,
        congrArg (·.modify index ({ · with stage := change.stage })) h.watchers, h.trace⟩
    refine ⟨_, ?_, hmoved.record (.watcher index) rfl⟩
    simp only [System.step, ← h.watchers, hw, hchange']
  | tracker index =>
    obtain ⟨t, stage, did, ht, hdid, rfl⟩ := step_tracker_eq_some hstep
    have ht' : s'.roster.trackers[index]? = some (t.updateFeed fun _ => feeds index) := by
      rw [hroster, Roster.getElem?_withFeeds, ht]
      rfl
    rw [Tracker.step_eq_of_seesAlike (h.seesAlike setup t.token)] at hdid
    obtain ⟨next', did', hdid', hgist, hnext⟩ :=
      Tracker.step_readsAlike (fun feed hfeed => hfeeds index t feed ht hfeed) hdid
    have htoken : (t.updateFeed fun _ => feeds index).token = t.token :=
      congrArg Prod.snd (t.origin_updateFeed _)
    have hmoved : ReadsAlike { s with roster := s.roster.setStage index stage }
        { s' with
          roster := s'.roster.setStage index
            (Tracker.updateFeed { t with stage } fun _ => next').stage } :=
      ⟨h.server, h.sinksHeld, h.roster.setStage ht hnext, h.watchers, h.trace⟩
    have hlog : s'.failureLog did' = s.failureLog did := by
      rw [failureLog_gist s' hgist]
      unfold failureLog
      rw [h.watchers]
    refine ⟨_, ?_, hmoved.record (.tracker index) (?_ : (did' ++ s'.failureLog did').map gist = _)⟩
    · simp only [System.step, ht', htoken, hdid']
    · rw [List.map_append, List.map_append, hgist, hlog]

end ReadsAlike

end System

/-! ## Runs that read alike -/

/-- Two moves are the same, or events of backups come in that read alike to the trackers of these
schedules, over all watches of backups or over one of them. -/
inductive Move.ReadsAlike (schedules : List String) : Move → Move → Prop where
  /-- They are the same. -/
  | same (move : Move) : ReadsAlike schedules move move
  /-- The events read alike. -/
  | event {event event' : Event} (h : ∀ schedule ∈ schedules, event.ReadsAlike schedule event') :
      ReadsAlike schedules (.input (.event .backup event)) (.input (.event .backup event'))
  /-- The events read alike, and come in over the watch of one tracker. -/
  | arrive (index : Nat) {event event' : Event}
      (h : ∀ schedule ∈ schedules, event.ReadsAlike schedule event') :
      ReadsAlike schedules (.input (.arrive (.tracker index) (.event event)))
        (.input (.arrive (.tracker index) (.event event')))

/-- The backups that a tracker with a watch tracks, with the last phase of each. -/
def Tracker.tracked? (t : Tracker) : Option Tracked :=
  match t.stage with
  | .following _ tracked => some tracked
  | .delivering _ tracked _ _ => some tracked
  | _ => none

lemma Tracker.tracked?_updateFeed (t : Tracker) (f : Feed → Feed) :
    (t.updateFeed f).tracked? = t.tracked? := by
  obtain ⟨schedule, token, stage⟩ := t
  cases stage <;> rfl

namespace System

variable {setup : Setup} {s s' next : System} {schedules : List String} {moves moves' : List Move}

/-- No tracker is forgotten. -/
lemma schedules_of_play (h : s.play setup moves = some next)
    (hnext : ∀ t ∈ next.roster.trackers, t.schedule ∈ schedules) :
    ∀ t ∈ s.roster.trackers, t.schedule ∈ schedules := by
  intro t ht
  obtain ⟨index, ht⟩ := List.mem_iff_getElem?.mp ht
  obtain ⟨u, hu, horigin⟩ := tracker_of_play (P := fun u _ => u.origin = t.origin)
    (fun hmoves horigin => hmoves.origin_eq.trans horigin) h ht rfl
  rw [show t.schedule = u.schedule from congrArg Prod.fst horigin.symm]
  exact hnext u (List.mem_of_getElem? hu)

namespace ReadsAlike

lemma tracked (h : s.ReadsAlike s') (index : Nat) :
    s'.roster.trackers[index]?.map (fun t => (t.schedule, t.tracked?)) =
      s.roster.trackers[index]?.map fun t => (t.schedule, t.tracked?) := by
  obtain ⟨feeds, hroster, -⟩ := h.roster
  rw [hroster, Roster.getElem?_withFeeds, Option.map_map]
  congr 1
  funext t
  exact Prod.ext (t.schedule_updateFeed _) (t.tracked?_updateFeed _)

/-- A run of one system is a run of the other, as far as the trackers read it. -/
theorem play (hmoves : List.Forall₂ (Move.ReadsAlike schedules) moves moves')
    (h : s.ReadsAlike s') (hplay : s.play setup moves = some next)
    (hschedules : ∀ t ∈ next.roster.trackers, t.schedule ∈ schedules) :
    ∃ next', s'.play setup moves' = some next' ∧ next.ReadsAlike next' := by
  induction hmoves generalizing s s' with
  | nil =>
    obtain rfl : s = next := Option.some.inj hplay
    exact ⟨s', rfl, h⟩
  | @cons move move' moves moves' hmove _ ih =>
    -- the trackers of this state are among those at the end, so the event reads alike to them
    have hbefore := schedules_of_play hplay hschedules
    simp only [System.play] at hplay ⊢
    split at hplay
    next mid hmid =>
      have hmoved : ∃ mid', s'.move setup move' = some mid' ∧ mid.ReadsAlike mid' := by
        cases hmove with
        | same =>
          cases move with
          | input input =>
            obtain rfl : s.apply input = mid := Option.some.inj hmid
            exact ⟨_, rfl, h.apply input⟩
          | step task => exact h.step hmid
        | @event event event' hevent =>
          obtain rfl : s.apply (.event .backup event) = mid := Option.some.inj hmid
          exact ⟨_, rfl, h.event fun t ht => hevent t.schedule (hbefore t ht)⟩
        | @arrive index event event' hevent =>
          obtain rfl : s.apply (.arrive (.tracker index) (.event event)) = mid :=
            Option.some.inj hmid
          exact ⟨_, rfl, h.arrive index fun t ht => hevent t.schedule (hbefore t ht)⟩
      obtain ⟨mid', hmid', halike⟩ := hmoved
      rw [hmid']
      exact ih halike hplay
    next => cases hplay

end ReadsAlike

/-- **A tracker depends on nothing but the fields it is meant to read.** Take two sequences of
events that agree one by one on the change, the name, whether the backup belongs to the schedule,
and what is read of its phase, of its times where that phase is completed and of its error where it
is failed. Whatever else the objects contain, the tracker reacts to each event in the same way: what
it tracks, logs, measures and reports. And a run of the whole system with the one sequence is a run
with the other, step by step: everything is done in the same order, the sinks get the same reports,
the same is logged and measured, and every tracker tracks the same backups under the same phases. -/
theorem reads_nothing_else (setup : Setup) :
    (∀ (schedule : String) (tracked : Tracked) (events events' : List Event),
      List.Forall₂ (Event.ReadsAlike schedule) events events' →
      Tracker.reactAll schedule tracked events = Tracker.reactAll schedule tracked events') ∧
    ∀ (schedules : List String) (moves moves' : List Move) (s : System),
      List.Forall₂ (Move.ReadsAlike schedules) moves moves' →
      ({} : System).play setup moves = some s →
      (∀ t ∈ s.roster.trackers, t.schedule ∈ schedules) →
      ∃ s', ({} : System).play setup moves' = some s' ∧
        s'.trace.map Entry.gist = s.trace.map Entry.gist ∧
        s'.trace.deliveries = s.trace.deliveries ∧
        s'.trace.log = s.trace.log ∧
        s'.trace.measurements = s.trace.measurements ∧
        ∀ index : Nat,
          s'.roster.trackers[index]?.map (fun t : Tracker => (t.schedule, t.tracked?)) =
            s.roster.trackers[index]?.map fun t : Tracker => (t.schedule, t.tracked?) := by
  refine ⟨fun _ tracked _ _ h => Tracker.reactAll_eq h tracked,
    fun schedules moves moves' s hmoves hplay hschedules => ?_⟩
  have hempty : ReadsAlike {} {} :=
    ⟨rfl, rfl, ⟨fun _ => {}, rfl, fun _ _ _ ht => by cases ht⟩, rfl, rfl⟩
  obtain ⟨s', hplay', halike⟩ := ReadsAlike.play hmoves hempty hplay hschedules
  exact ⟨s', hplay', halike.trace, halike.deliveries, halike.log, halike.measurements,
    halike.tracked⟩

end System

namespace Sample

/-- The lives of three backups: one that runs and fails, one that completes, and one of which the
phase cannot be read. -/
def plain : List Event := [
  ⟨.added, { backup "b1" [] with content := .null }⟩,
  ⟨.modified, running "b1"⟩,
  ⟨.modified, failed "b1"⟩,
  ⟨.added, backup "b2" [("phase", .string "completed"),
    ("startedAt", .string "2024-05-01T12:05:00Z"), ("stoppedAt", .string "2024-05-01T12:09:00Z")]⟩,
  ⟨.added, backup "b3" [("phase", .bool true)]⟩]

/-- The same with other owners, with fields that nobody reads or that are of the wrong type, and
with a status that has no fields. -/
def cluttered : List Event := [
  ⟨.added, { backup "b1" [] with content := .object [("status", .array [.string "phase"])] }⟩,
  ⟨.modified, { backup "b1" [("startedAt", .int 5), ("phase", .string "running"),
    ("error", .bool false)] with
      owners := some [{ kind := "Cluster", name := "main" },
        { kind := "ScheduledBackup", name := "nightly" }] }⟩,
  ⟨.modified, backup "b1" [("phase", .string "failed"), ("error", .string "disk full"),
    ("stoppedAt", .array [])]⟩,
  ⟨.added, backup "b2" [("phase", .string "completed"), ("error", .int 7),
    ("startedAt", .string "2024-05-01T12:05:00Z"), ("stoppedAt", .string "2024-05-01T12:09:00Z")]⟩,
  ⟨.added, backup "b3" [("phase", .int 3)]⟩]

/-- The events of `plain` and of `cluttered` read alike to the tracker of `nightly`. -/
lemma readsAlike_cluttered : List.Forall₂ (Event.ReadsAlike "nightly") plain cluttered := by
  refine .cons ?_ (.cons ?_ (.cons ?_ (.cons ?_ (.cons ?_ .nil)))) <;>
    refine ⟨rfl, by decide, rfl, rfl, fun hphase => ?_, fun hphase => ?_⟩ <;>
    first | exact ⟨rfl, rfl⟩ | rfl | cases hphase

/-- A tracker of `nightly` takes these events and hands out what is to be reported. -/
def reading (events : List Event) : List Move :=
  opening ++ events.map (.input <| .event .backup ·) ++ steps 9

lemma readsAlike_reading {events events' : List Event}
    (h : List.Forall₂ (Event.ReadsAlike "nightly") events events') :
    List.Forall₂ (Move.ReadsAlike ["nightly"]) (reading events) (reading events') := by
  have hsame (moves : List Move) : List.Forall₂ (Move.ReadsAlike ["nightly"]) moves moves :=
    List.forall₂_same.mpr fun move _ => .same move
  refine List.rel_append (List.rel_append (hsame opening) ?_) (hsame (steps 9))
  rw [List.forall₂_map_left_iff, List.forall₂_map_right_iff]
  refine h.imp fun event event' hevent => .event fun schedule hschedule => ?_
  rwa [List.mem_singleton.mp hschedule]

end Sample

theorem System.reads_nothing_else_cluttered :
    Tracker.reactAll "nightly" ∅ Sample.plain = Tracker.reactAll "nightly" ∅ Sample.cluttered ∧
      ({} : System).play Sample.setup (Sample.reading Sample.plain) =
        some (Sample.systemAfter (Sample.reading Sample.plain)) ∧
      (Sample.systemAfter (Sample.reading Sample.plain)).trace.deliveries.length = 4 ∧
      ∃ s', ({} : System).play Sample.setup (Sample.reading Sample.cluttered) = some s' ∧
        s'.trace.deliveries =
          (Sample.systemAfter (Sample.reading Sample.plain)).trace.deliveries := by
  obtain ⟨hreactions, hruns⟩ := System.reads_nothing_else Sample.setup
  have hplay : ({} : System).play Sample.setup (Sample.reading Sample.plain) =
    some (Sample.systemAfter (Sample.reading Sample.plain)) := rfl
  have hnightly : ∀ t ∈ (Sample.systemAfter (Sample.reading Sample.plain)).roster.trackers,
      t.schedule ∈ ["nightly"] := by
    have hall : (Sample.systemAfter (Sample.reading Sample.plain)).roster.trackers.map
      (·.schedule) = ["nightly"] := rfl
    intro t ht
    rw [← hall]
    exact List.mem_map_of_mem ht
  obtain ⟨s', hplay', -, hdeliveries, -⟩ :=
    hruns ["nightly"] _ _ _ (Sample.readsAlike_reading Sample.readsAlike_cluttered) hplay hnightly
  exact ⟨hreactions "nightly" ∅ _ _ Sample.readsAlike_cluttered, hplay, rfl, s', hplay',
    hdeliveries⟩

end BackupMonitor
