import BackupMonitor.Proofs.Wired
import BackupMonitor.Proofs.OwnErrors

/-!
# A watch error is an early close

Of what comes in over a connection only the events count that stand before the end, and it does not
matter what made the end: an error of the server, a failure of the stream or a connection that was
closed. `Wired.Twins` are two runs that differ in nothing else; they decode to the same system
(`Wired.Twins.decode_and_feeds`), so the tasks do the same in both (`Wired.cut_is_close`).
-/

namespace BackupMonitor

open Api (WatchItem)
open Occurrence

namespace System

variable {setup : Setup} {s : System} {task : TaskId}

lemma awaitsEvent_withFeeds (s : System) (F : TaskId → Feed → Feed) (task : TaskId) :
    (s.withFeeds F).awaitsEvent task = s.awaitsEvent task := by
  cases task with
  | tracker index =>
    rw [awaitsEvent, awaitsEvent, getElem?_trackers_withFeeds, Option.any_map]
    congr 1
    funext t
    obtain ⟨schedule, token, stage⟩ := t
    cases stage <;> rfl
  | watcher index =>
    rw [awaitsEvent, awaitsEvent, getElem?_watchers_withFeeds, Option.any_map]
    congr 1
    funext w
    obtain ⟨cluster, stage⟩ := w
    cases stage <;> rfl

lemma isCancelled_withFeeds (s : System) (F : TaskId → Feed → Feed) (task : TaskId) :
    (s.withFeeds F).isCancelled task = s.isCancelled task := by
  cases task with
  | tracker index =>
    rw [isCancelled, isCancelled, getElem?_trackers_withFeeds, Option.any_map]
    congr 1
    funext t
    exact congrArg (s.roster.tokens.isCancelled ·.2) (t.origin_updateFeed _)
  | watcher index => rfl

/-- Whether a task looks at its watch does not depend on what is in it. -/
lemma listens_withFeeds (s : System) (F : TaskId → Feed → Feed) (task : TaskId) :
    (s.withFeeds F).listens task = s.listens task := by
  rw [listens, listens, awaitsEvent_withFeeds, isCancelled_withFeeds]

lemma result?_withFeeds (s : System) (F : TaskId → Feed → Feed) :
    (s.withFeeds F).result? = s.result? := by
  rw [result?_eq, result?_eq, isEmpty_watchers_withFeeds]
  rfl

/-- A task that finished with an error made a call that failed just before. -/
lemma exists_refused_of_finished (htrackers : TrackersHaveHistory setup s)
    (hwatchers : WatchersHaveHistory setup s) {e : TaskError}
    (hphase : s.phase? task = some (.finished (some e))) :
    ∃ before query message, exchange (s.trace.ofTask task) =
      before ++ [.called ⟨setup.space, query⟩, .refused e, .finished (some e)] ∧
      query.kind = task.kind ∧ e = query.error message := by
  cases task with
  | tracker index =>
    obtain ⟨t, ht, hstage⟩ := Option.map_eq_some_iff.mp hphase
    have hsaid := (htrackers.1 index t ht).dialogue
    rw [hstage] at hsaid
    exact hsaid.exists_of_finished
  | watcher index =>
    obtain ⟨w, hw, hstage⟩ := Option.map_eq_some_iff.mp hphase
    have hsaid := (hwatchers.1 index w hw).dialogue
    rw [hstage] at hsaid
    exact hsaid.exists_of_finished

end System

namespace Wired

variable {setup : Setup} {W V : Wired}

/-- The feeds after a step of a task. -/
def feedsAfter (s : System) (feeds : TaskId → Feed) (task : TaskId) : TaskId → Feed :=
  if s.listens task then Function.update feeds task (feeds task).rest
  else if (s.feed? task).isSome then feeds
  else Function.update feeds task {}

/-- What is at hand after a step is a matter of the decoded system. -/
lemma feeds_of_step {task : TaskId} {next : Wired} (h : W.step setup task = some next) :
    next.feeds = feedsAfter W.decode W.feeds task := by
  have hfeeds (wires : TaskId → Wire) (wire : Wire) :
      (fun other => (Function.update wires task wire other).feed) =
        Function.update (fun other => (wires other).feed) task wire.feed := by
    funext other
    exact Function.apply_update (fun _ => Wire.feed) wires task wire other
  have hsome : (W.decode.feed? task).isSome = (W.system.feed? task).isSome := by
    rw [decode, System.feed?_withFeeds, Option.isSome_map]
  rw [feedsAfter, hsome, decode, System.listens_withFeeds]
  cases hlistens : W.system.listens task with
  | true =>
    simp only [step, hlistens, if_true, Option.map_eq_some_iff] at h
    obtain ⟨next, -, rfl⟩ := h
    exact (hfeeds _ _).trans (congrArg _ (Wire.poll_eq task.kind (W.wires task)).2)
  | false =>
    simp only [step, hlistens, Bool.false_eq_true, if_false, Option.map_eq_some_iff] at h
    obtain ⟨next, -, rfl⟩ := h
    cases hfeed : (W.system.feed? task).isSome with
    | true => rfl
    | false => exact hfeeds _ _

/-- The same input brings the same over connections with the same events. -/
lemma feeds_apply (hfeeds : W.feeds = V.feeds) (input : Input) :
    (W.apply input).feeds = (V.apply input).feeds := by
  cases input with
  | event kind event => exact (feeds_arrive W _).trans (hfeeds ▸ (feeds_arrive V _).symm)
  | close kind => exact (feeds_arrive W _).trans (hfeeds ▸ (feeds_arrive V _).symm)
  | arrive => exact (feeds_arrive W _).trans (hfeeds ▸ (feeds_arrive V _).symm)
  | _ => exact hfeeds

/-- Two runs in which the same happens, except that what comes in over the connections only has to
bring the same events and the same ends. After the end of a watch anything may come in. -/
inductive Twins (setup : Setup) : Wired → Wired → Prop where
  /-- Nothing has happened. -/
  | start : Twins setup {} {}
  /-- The same input comes in. -/
  | input {W V : Wired} (h : Twins setup W V) (input : Input) :
      Twins setup (W.apply input) (V.apply input)
  /-- The same task takes a step. -/
  | step {W V W' V' : Wired} {task : TaskId} (h : Twins setup W V)
      (hW : W.step setup task = some W') (hV : V.step setup task = some V') : Twins setup W' V'
  /-- Something comes in over the connections. -/
  | arrive {W V : Wired} {chunks chunks' : TaskId → Chunk} (h : Twins setup W V)
      (halike : ∀ task, (W.wires task).isOver = true ∨ (chunks task).Alike (chunks' task)) :
      Twins setup (W.arrive chunks) (V.arrive chunks')

namespace Twins

/-- Both runs have the same events at hand, and are in the same state otherwise. -/
theorem decode_and_feeds (h : Twins setup W V) : W.decode = V.decode ∧ W.feeds = V.feeds := by
  -- the decoded systems do not tell of connections without an open watch, hence the second part
  induction h with
  | start => exact ⟨rfl, rfl⟩
  | @input W V _ input ih =>
    obtain ⟨hdecode, hfeeds⟩ := ih
    exact ⟨by rw [decode_apply, decode_apply, hdecode], feeds_apply hfeeds input⟩
  | @step W V W' V' task _ hW hV ih =>
    obtain ⟨hdecode, hfeeds⟩ := ih
    have hsteps : some W'.decode = some V'.decode := by
      calc some W'.decode = (W.step setup task).map decode := by rw [hW]; rfl
        _ = V.decode.step setup task := by rw [map_decode_step, hdecode]
        _ = some V'.decode := by rw [← map_decode_step, hV]; rfl
    exact ⟨Option.some.inj hsteps, by rw [feeds_of_step hW, feeds_of_step hV, hdecode, hfeeds]⟩
  | @arrive W V chunks chunks' _ halike ih =>
    obtain ⟨hdecode, hfeeds⟩ := ih
    have harrive : (W.arrive chunks).feeds = (V.arrive chunks').feeds := by
      rw [feeds_arrive, feeds_arrive, hfeeds]
      funext task
      obtain hover | halike := halike task
      · -- the watch has ended in both runs, so nothing counts that came in
        have hclosed : (V.feeds task).closed = true := by
          rw [← hfeeds]
          exact (Wire.closed_feed _).trans hover
        rw [Feed.receive, Feed.receive, if_pos hclosed, if_pos hclosed]
      · exact Feed.receive_of_alike halike _
    refine ⟨?_, harrive⟩
    calc (W.arrive chunks).decode
        = W.decode.withFeeds fun task _ => (W.arrive chunks).feeds task :=
          (W.withFeeds_decode _).symm
      _ = V.decode.withFeeds fun task _ => (V.arrive chunks').feeds task := by
          rw [hdecode, harrive]
      _ = (V.arrive chunks').decode := V.withFeeds_decode _

/-- The runs go on together. -/
lemma exists_step (h : Twins setup W V) {task : TaskId} {next : Wired}
    (hstep : W.step setup task = some next) :
    ∃ next', V.step setup task = some next' ∧ Twins setup next next' := by
  have hsome : (V.step setup task).map decode = some next.decode := by
    rw [map_decode_step, ← h.decode_and_feeds.1, ← map_decode_step, hstep]
    rfl
  obtain ⟨next', hnext', -⟩ := Option.map_eq_some_iff.mp hsome
  exact ⟨next', hnext', h.step hstep hnext'⟩

lemma symm (h : Twins setup W V) : Twins setup V W := by
  induction h with
  | start => exact start
  | input _ input ih => exact ih.input input
  | step _ hW hV ih => exact ih.step hV hW
  | @arrive W V chunks chunks' h halike ih =>
    refine ih.arrive fun task => (halike task).imp (fun hover => ?_) fun h =>
      ⟨h.events.symm, h.isLast.symm⟩
    have hfeed : W.feeds task = V.feeds task := congrFun h.decode_and_feeds.2 task
    rw [← Wire.closed_feed] at hover ⊢
    exact (congrArg Feed.closed hfeed).symm.trans hover

lemma histories (h : Twins setup W V) : System.TrackersHaveHistory setup W.decode ∧
    System.WatchersHaveHistory setup W.decode := by
  induction h with
  | start => exact ⟨(System.Reachable.empty setup).trackersHaveHistory,
      (System.Reachable.empty setup).watchersHaveHistory⟩
  | @input W V _ input ih =>
    rw [decode_apply]
    exact ⟨ih.1.apply input, ih.2.apply input⟩
  | @step W V W' V' task _ hW hV ih =>
    have hstep : W.decode.step setup task = some W'.decode := by
      rw [← map_decode_step, hW]
      rfl
    exact ⟨ih.1.step hstep, ih.2.step hstep⟩
  | @arrive W V chunks chunks' _ _ ih =>
    rw [decode_arrive]
    exact ⟨ih.1.withFeeds _, ih.2.withFeeds _⟩

/-- The runs go on together, also where a task has to wait. -/
lemma getD_step (h : Twins setup W V) (task : TaskId) :
    Twins setup ((W.step setup task).getD W) ((V.step setup task).getD V) := by
  cases hW : W.step setup task with
  | some next =>
    obtain ⟨next', hnext', htwins⟩ := h.exists_step hW
    rw [hnext']
    exact htwins
  | none =>
    cases hV : V.step setup task with
    | some next' =>
      obtain ⟨next, hnext, -⟩ := h.symm.exists_step hV
      exact absurd (hW.symm.trans hnext) (Option.some_ne_none next).symm
    | none => exact h

end Twins

/-- **A watch error is an early close.** However often a stream is polled, it yields the events
before the first item that ends it, each as it came in and in that order, and then says that it has
ended, whatever stands behind that item. So an item that ends a stream is like a connection that is
closed after the same events, with or without bookmarks among them. Two runs that differ in such
ways only, over any connections, leave the same trace of calls, events, reports, measurements and
started trackers, the same registry and tokens, and every task at the same point and with the same
result; and they go on together. What a task fails with is never the end of a watch: it is the
answer to the call that it made just before. -/
theorem cut_is_close (setup : Setup) :
    (∀ (kind : ResourceKind) (count : Nat) (before : List WatchItem),
      before.any (·.endsStream) = false →
      (∀ (cut : WatchItem) (after : List WatchItem) (closed : Bool), cut.endsStream = true →
        Wire.answers kind count { items := before ++ cut :: after, closed } =
          ((before.filterMap WatchItem.event?).map Poll.event ++
            List.replicate count Poll.ended).take count) ∧
      ∀ closed : Bool, Wire.answers kind count { items := before, closed } =
        ((before.filterMap WatchItem.event?).map Poll.event ++
          List.replicate count (if closed then Poll.ended else Poll.pending)).take count) ∧
    (∀ (before before' : List WatchItem) (cut : WatchItem) (after : List WatchItem)
      (closes : Bool), before.any (·.endsStream) = false → before'.any (·.endsStream) = false →
      before.filterMap WatchItem.event? = before'.filterMap WatchItem.event? →
      cut.endsStream = true → Chunk.Alike { items := before ++ cut :: after, closes }
        { items := before', closes := true }) ∧
    ∀ W V : Wired, Twins setup W V →
      V.system.trace = W.system.trace ∧
      V.system.roster.registry = W.system.roster.registry ∧
      V.system.roster.tokens = W.system.roster.tokens ∧
      V.system.result? = W.system.result? ∧
      (∀ task, V.system.phase? task = W.system.phase? task) ∧
      (∀ task next, W.step setup task = some next →
        ∃ next', V.step setup task = some next' ∧ Twins setup next next') ∧
      (∀ task next', V.step setup task = some next' →
        ∃ next, W.step setup task = some next ∧ Twins setup next next') ∧
      ∀ task e, W.system.phase? task = some (.finished (some e)) →
        ∃ said query message, exchange (W.system.trace.ofTask task) =
          said ++ [.called ⟨setup.space, query⟩, .refused e, .finished (some e)] ∧
          query.kind = task.kind ∧ e = query.error message := by
  refine ⟨fun kind count before hbefore => ⟨fun cut after closed hcut => ?_, fun closed => ?_⟩,
    fun before before' cut after closes h h' hevents hcut =>
      Chunk.alike_cut h h' hevents hcut after closes, fun W V h => ?_⟩
  · rw [Wire.answers_eq]
    simp [Wire.feed, WatchItem.events_append_cons hbefore hcut, hcut]
  · rw [Wire.answers_eq]
    simp [Wire.feed, WatchItem.events_eq_filterMap hbefore, hbefore]
  obtain ⟨hdecode, -⟩ := h.decode_and_feeds
  have hsame {α : Type} (look : System → α) : look V.decode = look W.decode :=
    congrArg look hdecode.symm
  refine ⟨hsame System.trace, hsame (·.roster.registry), hsame (·.roster.tokens), ?_,
    fun task => ?_, fun task next => h.exists_step, fun task next' hstep => ?_,
    fun task e hphase => ?_⟩
  · calc V.system.result? = V.decode.result? := (System.result?_withFeeds _ _).symm
      _ = W.system.result? := by rw [← hdecode]; exact System.result?_withFeeds _ _
  · calc V.system.phase? task = V.decode.phase? task := (System.phase?_withFeeds _ _ _).symm
      _ = W.system.phase? task := by rw [← hdecode]; exact System.phase?_withFeeds _ _ _
  · obtain ⟨next, hnext, htwins⟩ := h.symm.exists_step hstep
    exact ⟨next, hnext, htwins.symm⟩
  · rw [← System.phase?_withFeeds W.system fun task _ => (W.wires task).feed] at hphase
    exact System.exists_refused_of_finished h.histories.1 h.histories.2 hphase

end Wired

namespace Sample

/-- What the server says when it gives up a watch. -/
def gone : Api.Status where
  status := "Failure"
  message := "too old resource version"
  reason := "Expired"
  code := 410

/-- A watch that is given up: a backup that runs, a sign of life, the error, and a change that does
not count any more. -/
def untilGone : List WatchItem :=
  [.event ⟨.added, running "b1"⟩, .bookmark, .refused gone, .event ⟨.modified, failed "b1"⟩]

/-- The first tracker takes that many steps, if it can. -/
def wiredSteps : Nat → Wired → Wired
  | 0, W => W
  | count + 1, W => wiredSteps count ((W.step setup (.tracker 0)).getD W)

/-- The tracker of the schedule `nightly` gets this over its connection. The list that it asks for
after that fails. -/
def afterChunk (chunk : Chunk) : Wired :=
  wiredSteps 4 <| ((wiredSteps 5 <| ({} : Wired).apply (.start (.tracker "nightly"))).arrive
    fun _ => chunk).apply (.fault .list .backup "forbidden")

lemma twins_wiredSteps (count : Nat) {W V : Wired} (h : Wired.Twins setup W V) :
    Wired.Twins setup (wiredSteps count W) (wiredSteps count V) := by
  induction count generalizing W V with
  | zero => exact h
  | succ count ih => exact ih (h.getD_step _)

lemma twins_afterChunk {chunk chunk' : Chunk} (h : chunk.Alike chunk') :
    Wired.Twins setup (afterChunk chunk) (afterChunk chunk') :=
  twins_wiredSteps 4
    (((twins_wiredSteps 5 (Wired.Twins.start.input _)).arrive fun _ => .inr h).input _)

end Sample

theorem Wired.cut_is_close_untilGone :
    Wire.answers .backup 3 { items := Sample.untilGone } =
      [.event ⟨.added, Sample.running "b1"⟩, .ended, .ended] ∧
    (Sample.afterChunk
        { items := [.event ⟨.added, Sample.running "b1"⟩], closes := true }).system.trace =
      (Sample.afterChunk { items := Sample.untilGone }).system.trace ∧
    (Sample.afterChunk { items := Sample.untilGone }).system.trace.calls =
      [.list .backup, .watch .backup "rv-1", .list .backup] ∧
    ∃ said query message,
      exchange
        ((Sample.afterChunk { items := Sample.untilGone }).system.trace.ofTask (.tracker 0)) =
        said ++ [.called ⟨"databases", query⟩, .refused (.call .list "backups" "forbidden"),
          .finished (some (.call .list "backups" "forbidden"))] ∧
      query.kind = .backup ∧ .call .list "backups" "forbidden" = query.error message := by
  obtain ⟨hstream, halike, hruns⟩ := cut_is_close Sample.setup
  have hchunk := halike [.event ⟨.added, Sample.running "b1"⟩, .bookmark]
    [.event ⟨.added, Sample.running "b1"⟩] (.refused Sample.gone)
    [.event ⟨.modified, Sample.failed "b1"⟩] false rfl rfl rfl rfl
  obtain ⟨htrace, -, -, -, -, -, -, herror⟩ := hruns _ _ (Sample.twins_afterChunk hchunk)
  exact ⟨(hstream .backup 3 [.event ⟨.added, Sample.running "b1"⟩, .bookmark] rfl).1
    (.refused Sample.gone) [.event ⟨.modified, Sample.failed "b1"⟩] false rfl, htrace, by decide,
    herror (.tracker 0) _ rfl⟩

end BackupMonitor
