import BackupMonitor.Proofs.Refusals
import BackupMonitor.Sink.Selection
import Mathlib.Algebra.BigOperators.Group.Finset.Piecewise

/-!
# What does not depend on the order

Measurements can be taken in in any order: the counters, the number of trackers that run and the
ranges of the durations come out the same (`Ledger.sameTallies_of_perm`). How often a sink refuses
may depend on the order in which it is handed reports; `Sink.IsOrderBlind` says that it does not,
and holds of the sinks that can be selected.
-/

namespace BackupMonitor

open Occurrence

/-! ## Ledgers -/

namespace Ledger

/-- Two ledgers say the same, apart from the refusals of sinks and from the sum of the durations. -/
structure SameTallies (l l' : Ledger) : Prop where
  /-- Every other counter is the same, or is missing in both. -/
  counters : ∀ counter, (∀ sink, counter ≠ sinkFailures sink) →
    l.counters.get? counter = l'.counters.get? counter
  /-- The same number of trackers run. -/
  activeTrackers : l.activeTrackers = l'.activeTrackers
  /-- There are as many durations. -/
  samples : l.durations.count = l'.durations.count
  /-- As many of them fall into each range. -/
  buckets : l.durations.buckets = l'.durations.buckets

namespace SameTallies

variable {l l' l'' : Ledger}

lemma refl (l : Ledger) : l.SameTallies l := ⟨fun _ _ => rfl, rfl, rfl, rfl⟩

lemma trans (h : l.SameTallies l') (h' : l'.SameTallies l'') : l.SameTallies l'' :=
  ⟨fun counter hcounter => (h.counters counter hcounter).trans (h'.counters counter hcounter),
    h.activeTrackers.trans h'.activeTrackers, h.samples.trans h'.samples,
    h.buckets.trans h'.buckets⟩

lemma of_agrees (h : l.Agrees l') : l.SameTallies l' :=
  ⟨h.counters, h.activeTrackers, congrArg Histogram.count h.durations,
    congrArg Histogram.buckets h.durations⟩

lemma record (h : l.SameTallies l') (m : Measurement) :
    (l.record m).SameTallies (l'.record m) := by
  refine ⟨fun counter hcounter => ?_, ?_, ?_, ?_⟩
  · rw [get?_record, get?_record]
    unfold count
    rw [h.counters counter hcounter]
  · simp only [Ledger.record, h.activeTrackers]
  · cases m with
    | duration seconds => exact congrArg (· + 1) h.samples
    | _ => exact h.samples
  · cases m with
    | duration seconds =>
      exact congrArg (·.modify (Histogram.bucketOf seconds) (· + 1)) h.buckets
    | _ => exact h.buckets

/-- Two counts go up, in whatever order. -/
lemma modify_succ_comm (counts : List Nat) (i j : Nat) :
    (counts.modify i (· + 1)).modify j (· + 1) = (counts.modify j (· + 1)).modify i (· + 1) := by
  refine List.ext_getElem? fun index => ?_
  simp only [List.getElem?_modify]
  cases counts[index]? with
  | none => rfl
  | some count => split <;> split <;> rfl

/-- Every duration is one sample more. -/
lemma samples_record (l : Ledger) (m : Measurement) :
    (l.record m).durations.count = l.durations.count + if m.isDuration then 1 else 0 := by
  cases m <;> rfl

/-- Every duration goes up in its range. -/
lemma buckets_record (l : Ledger) (m : Measurement) :
    (l.record m).durations.buckets =
      match m with
      | .duration seconds => l.durations.buckets.modify (Histogram.bucketOf seconds) (· + 1)
      | _ => l.durations.buckets := by
  cases m <;> rfl

/-- Of two measurements either may come first. -/
lemma record_comm (l : Ledger) (m m' : Measurement) :
    ((l.record m).record m').SameTallies ((l.record m').record m) := by
  refine ⟨fun counter _ => ?_, ?_, ?_, ?_⟩
  · rw [get?_record, get?_record, get?_record, get?_record, count_record, count_record]
    by_cases h : counterOf m = some counter <;> by_cases h' : counterOf m' = some counter <;>
      simp [h, h']
  · cases m <;> cases m' <;> simp only [Ledger.record] <;> omega
  · simp only [samples_record]
    omega
  · simp only [buckets_record]
    cases m with
    | duration seconds =>
      cases m' with
      | duration seconds' => exact modify_succ_comm _ _ _
      | _ => rfl
    | _ => rfl

end SameTallies

/-- Measurements can be taken in in any order. -/
theorem sameTallies_of_perm {ms ms' : List Measurement} (h : ms.Perm ms') :
    (ofList ms).SameTallies (ofList ms') := by
  -- the ledgers may have counted before
  have hfold {l l' : Ledger} (hsame : l.SameTallies l') :
      (ms.foldl Ledger.record l).SameTallies (ms'.foldl Ledger.record l') := by
    induction h generalizing l l' with
    | nil => exact hsame
    | cons m _ ih => exact ih (hsame.record m)
    | swap m m' rest =>
      have hrest (rest : List Measurement) {l l' : Ledger} (hsame : l.SameTallies l') :
          (rest.foldl Ledger.record l).SameTallies (rest.foldl Ledger.record l') := by
        induction rest generalizing l l' with
        | nil => exact hsame
        | cons m rest ih => exact ih (hsame.record m)
      exact hrest rest ((SameTallies.record_comm l m' m).trans ((hsame.record m).record m'))
    | trans _ _ ih ih' => exact (ih hsame).trans (ih' (.refl _))
  exact hfold (.refl {})

end Ledger

/-! ## Refusals -/

namespace Sink

/-- How many of some reports a sink refuses if it is handed them one after the other, after it was
handed `earlier`. -/
def refusalsAfter (sink : Sink) (earlier : List Report) : List Report → Nat
  | [] => 0
  | report :: rest =>
    (if (sink.respond earlier report).isSome then 1 else 0) +
      sink.refusalsAfter (earlier ++ [report]) rest

/-- How many of some reports a sink refuses if they are the first that it is handed. -/
def refusals (sink : Sink) (reports : List Report) : Nat :=
  sink.refusalsAfter [] reports

/-- However the same reports are ordered, the sink refuses as many of them. -/
def IsOrderBlind (sink : Sink) : Prop :=
  ∀ reports reports' : List Report, reports.Perm reports' →
    sink.refusals reports = sink.refusals reports'

variable {sink : Sink}

lemma refusals_append_singleton (sink : Sink) (reports : List Report) (report : Report) :
    sink.refusals (reports ++ [report]) =
      sink.refusals reports + if (sink.respond reports report).isSome then 1 else 0 := by
  have hafter (earlier : List Report) : sink.refusalsAfter earlier (reports ++ [report]) =
      sink.refusalsAfter earlier reports +
        if (sink.respond (earlier ++ reports) report).isSome then 1 else 0 := by
    induction reports generalizing earlier with
    | nil => simp [refusalsAfter]
    | cons first rest ih =>
      simp only [List.cons_append, refusalsAfter, ih, List.append_assoc, List.nil_append,
        Nat.add_assoc]
  exact hafter []

/-- A sink without a memory is blind to the order. -/
lemma isOrderBlind_of_respond_eq
    (h : ∀ earlier report, sink.respond earlier report = sink.respond [] report) :
    sink.IsOrderBlind := by
  intro reports reports' hperm
  have hcount (earlier reports : List Report) : sink.refusalsAfter earlier reports =
      reports.countP fun report => (sink.respond [] report).isSome := by
    induction reports generalizing earlier with
    | nil => rfl
    | cons report rest ih =>
      simp only [refusalsAfter, h earlier, ih, List.countP_cons, Nat.add_comm]
  rw [refusals, refusals, hcount, hcount, hperm.countP_eq]

end Sink

/-- Every sink that can be selected is blind to the order. -/
lemma SinkChoice.isOrderBlind (choice : SinkChoice) (network : SubmitRequest → SubmitAnswer) :
    (choice.sink network).IsOrderBlind := by
  refine Sink.isOrderBlind_of_respond_eq fun earlier report => ?_
  cases choice with
  | icinga service => rfl
  | void => rfl

namespace Delivery

/-- Reports are counted sink by sink. -/
lemma countP_eq_sum {ds : List Delivery} {count : Nat} (h : ∀ d ∈ ds, d.place < count)
    (p : Delivery → Bool) :
    ds.countP p = ∑ place ∈ Finset.range count, (ds.filter (·.place == place)).countP p := by
  induction ds with
  | nil => simp
  | cons d ds ih =>
    have hcons (place : Nat) : ((d :: ds).filter (·.place == place)).countP p =
        (ds.filter (·.place == place)).countP p +
          if d.place = place then (if p d then 1 else 0) else 0 := by
      by_cases hplace : d.place = place
      · simp [hplace, List.countP_cons]
      · simp [hplace]
    simp only [hcons]
    rw [Finset.sum_add_distrib, Finset.sum_ite_eq,
      if_pos (Finset.mem_range.mpr (h d List.mem_cons_self)), List.countP_cons,
      ih fun d' hd' => h d' (List.mem_cons_of_mem _ hd')]

/-- The sinks answered the reports one after the other. -/
structure AreAnswered (setup : Setup) (ds : List Delivery) : Prop where
  /-- The sink at the place of a report is the one that it is said to be. -/
  named : ∀ d ∈ ds, ∃ sink, setup.sinks[d.place]? = some sink ∧ d.sink = sink.name
  /-- Every sink refused what it refuses of its reports in that order. -/
  refused : ∀ place sink, setup.sinks[place]? = some sink →
    (ds.filter (·.place == place)).countP (·.error.isSome) = sink.refusals (reportsAt place ds)

namespace AreAnswered

variable {setup : Setup} {ds ds' : List Delivery} {name : String}

lemma nil (setup : Setup) : AreAnswered setup [] :=
  ⟨fun _ hd => absurd hd List.not_mem_nil, fun _ _ _ => rfl⟩

/-- One more report is handed to a sink. -/
lemma append (h : AreAnswered setup ds) {place : Nat} {sink : Sink}
    (hsink : setup.sinks[place]? = some sink) (report : Report) :
    AreAnswered setup (ds ++ [sink.deliver place ds report]) := by
  refine ⟨fun d hd => ?_, fun other sink' hsink' => ?_⟩
  · rcases List.mem_append.mp hd with hd | hd
    · exact h.named d hd
    · rw [List.mem_singleton.mp hd]
      exact ⟨sink, hsink, rfl⟩
  · have hbefore := h.refused other sink' hsink'
    rw [reportsAt_append, List.filter_append, List.countP_append, hbefore]
    by_cases hplace : place = other
    · subst hplace
      obtain rfl := Option.some.inj (hsink.symm.trans hsink')
      have hreport : reportsAt place [sink.deliver place ds report] = [report] := by
        simp [reportsAt, Sink.deliver]
      rw [hreport, Sink.refusals_append_singleton]
      simp [Sink.deliver, List.countP_cons]
    · have hreport : reportsAt other [sink.deliver place ds report] = [] := by
        simp [reportsAt, Sink.deliver, hplace]
      rw [hreport, List.append_nil]
      simp [Sink.deliver, hplace]

/-- Sinks of a name that are blind to the order refused as many reports, however these were
ordered. -/
theorem countP_isRefusalBy_eq (h : AreAnswered setup ds) (h' : AreAnswered setup ds')
    (hperm : ∀ place, (reportsAt place ds).Perm (reportsAt place ds'))
    (hblind : ∀ sink ∈ setup.sinks, sink.name = name → sink.IsOrderBlind) :
    ds.countP (·.isRefusalBy name) = ds'.countP (·.isRefusalBy name) := by
  have hplaces {ds : List Delivery} (h : AreAnswered setup ds) :
      ∀ d ∈ ds, d.place < setup.sinks.length := by
    intro d hd
    obtain ⟨sink, hsink, -⟩ := h.named d hd
    exact (List.getElem?_eq_some_iff.mp hsink).1
  -- at one place, either all refusals count or none does
  have hcount {ds : List Delivery} (h : AreAnswered setup ds) {place : Nat} {sink : Sink}
      (hsink : setup.sinks[place]? = some sink) :
      (ds.filter (·.place == place)).countP (·.isRefusalBy name) =
        if sink.name = name then sink.refusals (reportsAt place ds) else 0 := by
    have hnamed : ∀ d ∈ ds.filter (·.place == place), d.sink = sink.name := by
      intro d hd
      obtain ⟨hd, hplace⟩ := List.mem_filter.mp hd
      obtain ⟨sink', hsink', hname⟩ := h.named d hd
      rw [beq_iff_eq.mp hplace, hsink] at hsink'
      rw [hname, Option.some.inj hsink']
    split
    next hname =>
      rw [← h.refused place sink hsink]
      refine List.countP_congr fun d hd => ?_
      simp [isRefusalBy, hnamed d hd, hname]
    next hname =>
      rw [List.countP_eq_zero]
      intro d hd
      simp [isRefusalBy, hnamed d hd, hname]
  rw [countP_eq_sum (hplaces h), countP_eq_sum (hplaces h')]
  refine Finset.sum_congr rfl fun place hplace => ?_
  have hsink := List.getElem?_eq_getElem (Finset.mem_range.mp hplace)
  rw [hcount h hsink, hcount h' hsink]
  split
  next hname => exact hblind _ (List.getElem_mem _) hname _ _ (hperm place)
  next => rfl

end AreAnswered

end Delivery

namespace System

variable {setup : Setup} {s next : System}

lemma deliveries_append_map (trace : Trace) (task : TaskId) (did : List Occurrence) :
    Trace.deliveries (trace ++ did.map (⟨task, ·⟩)) =
      trace.deliveries ++ did.filterMap delivery? := by
  unfold Trace.deliveries
  rw [List.filterMap_append, List.filterMap_map]
  rfl

/-- What a step hands to the sinks is nothing, or one report to one sink. -/
lemma deliveries_of_step {task : TaskId} (h : s.step setup task = some next) :
    next.trace.deliveries = s.trace.deliveries ∨ ∃ place sink report,
      setup.sinks[place]? = some sink ∧ next.trace.deliveries =
        s.trace.deliveries ++ [Sink.deliver sink place s.trace.deliveries report] := by
  cases task with
  | watcher index =>
    obtain ⟨w, change, -, hchange, rfl⟩ := step_watcher_eq_some h
    have hnone : change.did.filterMap delivery? = [] :=
      filterMap_delivery?_of_isReport fun what hwhat => by
        cases hupkeep : what.isUpkeep with
        | true => cases what <;> first | rfl | cases hupkeep
        | false => cases (Watcher.step_cases hchange).does_of_mem hupkeep hwhat <;> rfl
    exact .inl (by rw [deliveries_append_map, hnone, List.append_nil])
  | tracker index =>
    obtain ⟨t, stage, did, -, hdid, rfl⟩ := step_tracker_eq_some h
    obtain ⟨lines, hlines⟩ := failureLog_eq_logged s did
    simp only [hlines, deliveries_append_map, List.filterMap_append, filterMap_delivery?_logged,
      List.append_nil]
    rcases (Tracker.step_cases hdid).sort with ⟨feed, tracked, event, queue, -, -, -, rfl⟩ |
      ⟨feed, tracked, report, place, -, -, rfl⟩ | hquiet
    · exact .inl (by rw [Tracker.filterMap_delivery?_take, List.append_nil])
    · simp only [Tracker.deliver]
      split
      · exact .inl (List.append_nil _)
      · next sink hsink =>
        refine .inr ⟨place, sink, report, hsink, ?_⟩
        simp only [List.filterMap_append, List.filterMap_cons, filterMap_delivery?_logged,
          filterMap_delivery?_measured, delivery?]
        rfl
    · exact .inl (by rw [filterMap_delivery?_of_isReport hquiet.report, List.append_nil])

/-- In every run the sinks answered the reports one after the other. -/
theorem Reachable.areAnswered (h : Reachable setup s) :
    Delivery.AreAnswered setup s.trace.deliveries := by
  refine h.induct (P := fun s => Delivery.AreAnswered setup s.trace.deliveries) (.nil setup)
    (fun s input h => ?_) (fun s task next h hstep => ?_)
  · rwa [trace_apply]
  · rcases deliveries_of_step hstep with hsame | ⟨place, sink, report, hsink, hmore⟩
    · rwa [hsame]
    · rw [hmore]
      exact h.append hsink report

end System

end BackupMonitor
