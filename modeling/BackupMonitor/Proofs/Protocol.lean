import BackupMonitor.Proofs.ListVersions
import BackupMonitor.Proofs.Reports
import BackupMonitor.Proofs.Requests
import BackupMonitor.Proofs.Rounds
import BackupMonitor.Proofs.WatchStreams

/-!
# How a task calls the API server

A task lists and watches in rounds, takes what comes in before the next round begins, goes on from
the version of its list, and does not call any more once it has been cancelled or a call has failed
(`System.calls_in_rounds`).
-/

namespace BackupMonitor

open Occurrence

/-- The call that was made. -/
def Occurrence.call? : Occurrence → Option Call
  | called call => some call
  | _ => none

namespace System

variable {setup : Setup} {s next : System} {task : TaskId}

/-- The calls that a task made. -/
def callsOf (s : System) (task : TaskId) : List Call :=
  (s.trace.ofTask task).filterMap call?

/-- All calls of a task are for the resources of its kind in the namespace of the setup. -/
lemma Reachable.of_mem_callsOf (h : Reachable setup s) {call : Call}
    (hcall : call ∈ s.callsOf task) :
    call.space = setup.space ∧ call.query.kind = task.kind := by
  obtain ⟨what, hwhat, hcalled⟩ := List.mem_filterMap.mp hcall
  obtain rfl : what = .called call := by
    cases what with
    | called other => rw [Option.some.inj hcalled]
    | _ => cases hcalled
  cases hphase : s.phase? task with
  | some phase => exact (h.dialogue hphase).of_called ((mem_exchange rfl).mpr hwhat)
  | none =>
    -- a task that is not there has done nothing
    have hnothing : s.trace.ofTask task = [] := by
      cases task with
      | watcher index =>
        exact h.watchersHaveHistory.2 index
          (List.getElem?_eq_none_iff.mp (by simpa [phase?] using hphase))
      | tracker index =>
        exact h.ofTask_eq_nil (List.getElem?_eq_none_iff.mp (by simpa [phase?] using hphase))
    rw [hnothing] at hwhat
    cases hwhat

/-- A task is cancelled, or it is not going to call any more because a call failed. -/
def HasStopped (s : System) (task : TaskId) : Prop :=
  s.isCancelled task = true ∨ ∃ phase, s.phase? task = some phase ∧ phase.isOpen = false

namespace HasStopped

/-- Input does not set it going again. -/
lemma apply (h : s.HasStopped task) (setup : Setup) (input : Input) :
    (s.apply input).HasStopped task := by
  have hmove : s.move setup (.input input) = some (s.apply input) := rfl
  rcases h with hcancel | ⟨phase, hphase, hclosed⟩
  · exact .inl (isCancelled_task_of_move hmove hcancel)
  · exact .inr ⟨phase, (s.staysAt_apply input task).of_some hphase, hclosed⟩

/-- Nor does a step, and it does not call. -/
lemma step (h : s.HasStopped task) {other : TaskId} (hstep : s.step setup other = some next) :
    next.HasStopped task ∧ next.callsOf task = s.callsOf task := by
  have hmove : s.move setup (.step other) = some next := hstep
  by_cases hother : other = task
  · subst hother
    obtain ⟨before, after, did, hturn⟩ := exists_turn hstep
    have hclosed : s.isCancelled other = true ∨ before.isOpen = false := by
      refine h.imp_right fun ⟨phase, hphase, hclosed⟩ => ?_
      rwa [Option.some.inj (hturn.before.symm.trans hphase)]
    have hnone : did.filterMap call? = [] := by
      rw [List.filterMap_eq_nil_iff]
      intro what hwhat
      cases what with
      | called call =>
        obtain ⟨hlive, hopen⟩ := hturn.live call hwhat
        rw [hlive, hopen] at hclosed
        simp at hclosed
      | _ => rfl
    refine ⟨?_, ?_⟩
    · exact hclosed.imp (isCancelled_task_of_move hmove)
        fun hclosed => ⟨after, hturn.after, hturn.closed hclosed⟩
    · unfold callsOf
      rw [hturn.trace, List.filterMap_append, hnone, List.append_nil]
  · refine ⟨?_, by unfold callsOf; rw [ofTask_of_step_ne hstep hother]⟩
    exact h.imp (isCancelled_task_of_move hmove) fun ⟨phase, hphase, hclosed⟩ =>
      ⟨phase, (staysAt_of_step_ne hstep hother).of_some hphase, hclosed⟩

/-- A task that has stopped makes no further call. -/
theorem callsOf_eq (h : s.HasStopped task) {rest : List Move}
    (hplay : s.play setup rest = some next) : next.callsOf task = s.callsOf task := by
  refine (play_invariant (P := fun u => u.HasStopped task ∧ u.callsOf task = s.callsOf task)
    ?_ ?_ ⟨h, rfl⟩ hplay).2
  · rintro u input ⟨hstopped, hcalls⟩
    refine ⟨hstopped.apply setup input, ?_⟩
    unfold callsOf
    rw [trace_apply]
    exact hcalls
  · rintro u other next ⟨hstopped, hcalls⟩ hstep
    obtain ⟨hstays, hsame⟩ := hstopped.step hstep
    exact ⟨hstays, hsame.trans hcalls⟩

end HasStopped

/-- A task calls in rounds. All its calls are for the resources of one kind, in the namespace of the
setup. In each round it lists, watches from the cursor of that list, takes events, and sees the end
of the watch. The last round may break off anywhere; a call that fails is the last one, and so is
one before a cancellation.

* What the task takes is what comes in over its watches, in that order; and before it lists it has
  taken all of that, the end of the last watch included. Every event of a tracker has then been
  handled: the sinks have been handed what it makes.
* The cursor of a list is the version of that list, or the one that stands for any version. If the
  versions are those in the answers of the server, it is what `Api.listResult` makes of the answer.
* No call of any task is taken for another one: not by its text, nor by its request. The request of
  a watch is that of the list with the cursor put behind it. -/
theorem calls_in_rounds {moves : List Move} (h : ({} : System).play setup moves = some s)
    {phase : CallPhase} (hphase : s.phase? task = some phase) :
    (∃ (rounds : List Round) (cut ending : List Occurrence),
      exchange (s.trace.ofTask task) =
        rounds.flatMap (·.script setup.space task.kind) ++ cut ++ ending ∧
      (∃ round : Round, cut <+: round.script setup.space task.kind) ∧
      Dialogue.Ending cut ending) ∧
    s.consumed task <+: streamed setup task {} moves ∧
    (phase = .idle → s.consumed task = streamed setup task {} moves ∧
      ∀ index t, task = .tracker index → s.roster.trackers[index]? = some t →
        ∀ place < setup.sinks.length,
          Delivery.reportsAt place ((s.trace.ofTask task).filterMap delivery?) =
            ((s.trace.ofTask task).filterMap event?).filterMap (Event.report? t.schedule)) ∧
    (∀ before other kind listing after,
      s.trace = before ++ ⟨other, .listed kind listing⟩ :: after →
      listing.cursor = (setup.version kind (Trace.lists before kind + 1)).getD anyVersion ∧
      ∀ answers, setup.AnsweredBy answers → ∀ read,
        Api.listResult kind setup.space (answers kind (Trace.lists before kind + 1)) = .ok read →
        listing.cursor = read.cursor) ∧
    (∀ call ∈ s.callsOf task, call.space = setup.space ∧ call.query.kind = task.kind ∧
      ∀ other, ∀ call' ∈ s.callsOf other,
        (call.query.text setup.space = call'.query.text setup.space → call = call') ∧
        ('#' ∉ setup.space.toList → ∀ request, call.request? = some request →
          call'.request? = some request → call = call')) ∧
    ('#' ∉ setup.space.toList → ∀ cursor request,
      Call.request? ⟨setup.space, .watch task.kind cursor⟩ = some request →
      ∃ list, Call.request? ⟨setup.space, .list task.kind⟩ = some list ∧
        request = list ++ Api.watchQuery cursor) ∧
    (s.isCancelled task = true ∨ phase.isOpen = false →
      ∀ rest later, s.play setup rest = some later → later.callsOf task = s.callsOf task) := by
  have hreach : Reachable setup s := ⟨moves, h⟩
  have hstreams : s.Streams task (streamed setup task {} moves) := by
    have hempty : ({} : System).Streams task [] := .waits (by cases task <;> rfl)
    simpa using hempty.play h
  refine ⟨(hreach.dialogue hphase).exists_rounds, hstreams.isPrefix, ?_,
    fun before other kind listing after htrace => ?_, fun call hcall => ?_,
    fun hsharp cursor request => Api.watchRequest?_eq_some hsharp,
    fun hstopped rest later hrest => HasStopped.callsOf_eq ?_ hrest⟩
  · rintro rfl
    refine ⟨hstreams.eq_consumed hphase, ?_⟩
    rintro index t rfl ht place hplace
    rw [← (hreach.history ht).handed_append_due hplace]
    have hidle : t.stage.phase = .idle := by simpa [phase?, ht] using hphase
    have hnone : t.stage.dueAt place = [] := by
      cases hstage : t.stage with
      | delivering feed tracked report place =>
        rw [hstage] at hidle
        cases hidle
      | _ => rfl
    rw [hnone, List.append_nil]
  · have hcursor := hreach.isNumbered.cursor before other kind listing after htrace
    refine ⟨hcursor, fun answers hanswers read hread => ?_⟩
    rw [hcursor, Api.cursor_of_listResult hread, hanswers]
  · obtain ⟨hspace, hkind⟩ := hreach.of_mem_callsOf hcall
    refine ⟨hspace, hkind, fun other call' hcall' => ?_⟩
    have hspace' := (hreach.of_mem_callsOf hcall').1
    refine ⟨fun htext => ?_, fun hsharp request => ?_⟩
    · rw [Call.mk.injEq]
      exact ⟨hspace.trans hspace'.symm, Query.text_injective setup.space htext⟩
    · exact Call.eq_of_request? (hspace ▸ hsharp) (hspace' ▸ hsharp)
  · exact hstopped.imp_right fun hclosed => ⟨phase, hphase, hclosed⟩

end System

namespace Sample

/-- The tracker of a schedule has reported the failure of a backup when its watch ends, and is about
to list again. -/
def roundTrip : List Move :=
  nightly ++ news .modified (failed "b1") :: steps 3 ++ .input (.close .backup) :: steps 1

/-- A list without objects, at the version of its number. -/
def emptyList (number : Nat) : Json :=
  .object [("metadata", .object [("resourceVersion", .string ("rv-" ++ toString number))]),
    ("items", .array [])]

/-- The server answers to every list with one without objects. -/
def emptyLists (_ : ResourceKind) (number : Nat) : Api.Answer :=
  .answered 200 (emptyList number).chars false

lemma ofChars_emptyList (number : Nat) :
    Json.Draft.ofChars (emptyList number).chars =
      { draft := .object [
          (some "metadata", .object
            [(some "resourceVersion", .text (some ("rv-" ++ toString number)))] .closed),
          (some "items", .list [] .closed)] .closed } := by
  rw [Json.Draft.ofChars_chars (by
    simp [emptyList, Json.defaultDepth, Json.IsReadable, Json.FieldsAreReadable,
      Json.AreReadable])]
  simp only [emptyList, Json.drafted, Json.draftedFields, Json.draftedItems]

/-- These are the answers that the sample setup goes by. -/
lemma answeredBy_emptyLists : setup.AnsweredBy emptyLists := by
  intro kind number
  simp only [emptyLists, Api.Answer.version?, ofChars_emptyList]
  simp [setup, Json.Draft.last?, Json.Draft.lastFrom, Json.Draft.asText?]

/-- The first of them can be read. -/
lemma listResult_emptyLists : Api.listResult .backup "databases" (emptyLists .backup 1) =
    .ok { items := [], cursor := "rv-1" } := by
  have hsent : (Api.listRequest? .backup "databases").isSome = true := by decide
  obtain ⟨request, hrequest⟩ := Option.isSome_iff_exists.mp hsent
  have hbody : (emptyLists .backup 1).body = .ok (emptyList 1).chars := rfl
  simp only [Api.listResult, hrequest, Api.Answer.decode, hbody, Json.readChars, ofChars_emptyList]
  rfl

end Sample

/-- Before it lists again, the tracker has taken the event and the end of the watch, and both sinks
have had the report. Its calls are a list and a watch in one namespace, from the cursor of that
list, which is the version in the answer. -/
theorem System.calls_in_rounds_roundTrip :
    ({} : System).play Sample.setup Sample.roundTrip =
        some (Sample.systemAfter Sample.roundTrip) ∧
      (Sample.systemAfter Sample.roundTrip).phase? (.tracker 0) = some .idle ∧
      (Sample.systemAfter Sample.roundTrip).callsOf (.tracker 0) =
        [⟨"databases", .list .backup⟩, ⟨"databases", .watch .backup "rv-1"⟩] ∧
      (Sample.systemAfter Sample.roundTrip).consumed (.tracker 0) =
        [.event { change := .modified, object := Sample.failed "b1" }, .ended] ∧
      (∀ place < 2, Delivery.reportsAt place
        (((Sample.systemAfter Sample.roundTrip).trace.ofTask (.tracker 0)).filterMap delivery?) =
          [.failure "backup failed: disk full"]) ∧
      Sample.setup.AnsweredBy Sample.emptyLists ∧
      (∃ before listing after, (Sample.systemAfter Sample.roundTrip).trace =
          before ++ ⟨.tracker 0, .listed .backup listing⟩ :: after ∧
        Trace.lists before .backup = 0 ∧
        ∃ read, Api.listResult .backup "databases" (Sample.emptyLists .backup 1) = .ok read ∧
          listing.cursor = read.cursor) ∧
      ∃ list, Call.request? ⟨"databases", .list .backup⟩ = some list ∧
        "GET /apis/postgresql.cnpg.io/v1/namespaces/databases/backups?&watch=true" ++
          "&timeoutSeconds=290&allowWatchBookmarks=true&resourceVersion=rv-1" =
          list ++ Api.watchQuery "rv-1" := by
  have h : ({} : System).play Sample.setup Sample.roundTrip =
      some (Sample.systemAfter Sample.roundTrip) := rfl
  have hphase : (Sample.systemAfter Sample.roundTrip).phase? (.tracker 0) = some .idle := rfl
  obtain ⟨-, -, hidle, hcursor, -, hrequest, -⟩ := System.calls_in_rounds h hphase
  obtain ⟨hconsumed, hhandled⟩ := hidle rfl
  -- the trace up to the list, and the list
  obtain ⟨before, listing, after, htrace, hnumber⟩ : ∃ before listing after,
      (Sample.systemAfter Sample.roundTrip).trace =
        before ++ ⟨.tracker 0, .listed .backup listing⟩ :: after ∧
      Trace.lists before .backup = 0 :=
    ⟨(Sample.systemAfter Sample.roundTrip).trace.take 9, _,
      (Sample.systemAfter Sample.roundTrip).trace.drop 10, rfl, rfl⟩
  obtain ⟨-, hanswers⟩ := hcursor before _ _ listing after htrace
  rw [hnumber] at hanswers
  exact ⟨h, hphase, rfl, hconsumed.trans rfl, fun place hplace =>
    (hhandled 0 _ rfl rfl place hplace).trans rfl, Sample.answeredBy_emptyLists,
    ⟨before, listing, after, htrace, hnumber, _, Sample.listResult_emptyLists,
      hanswers _ Sample.answeredBy_emptyLists _ Sample.listResult_emptyLists⟩,
    hrequest (by decide) _ _ (by decide +kernel)⟩

end BackupMonitor
