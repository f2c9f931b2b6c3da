import BackupMonitor.Proofs.LiveTracker

/-!
# No torn fan-out

A report goes to the sinks one after the other, and a sink that refuses, a sink that is held up and
a cancellation can all come in between. At no time are the sinks further apart than by the report
that is on its way: what a sink has recorded, followed by what is due to it, is the same for all of
them, and what is due is at most one report, which the later sinks wait for longer
(`TrackerStage.length_dueAt_mono`).
-/

namespace BackupMonitor

open Occurrence

namespace TrackerStage

variable {stage : TrackerStage} {place other : Nat}

/-- At most one report is on its way. -/
lemma length_dueAt_le_one (stage : TrackerStage) (place : Nat) :
    (stage.dueAt place).length ≤ 1 := by
  unfold dueAt
  split
  · split
    · exact Nat.le_refl 1
    · exact Nat.zero_le 1
  · exact Nat.zero_le 1

/-- A report that is due to a sink is due to the sinks after it. -/
lemma length_dueAt_mono (stage : TrackerStage) (hle : place ≤ other) :
    (stage.dueAt place).length ≤ (stage.dueAt other).length := by
  unfold dueAt
  split
  next feed tracked report next =>
    by_cases hnext : next ≤ place
    · rw [if_pos hnext, if_pos (Nat.le_trans hnext hle)]
    · rw [if_neg hnext]
      exact Nat.zero_le _
  next => exact Nat.le_refl 0

/-- Nothing is due outside of a fan-out. -/
lemma dueAt_of_not_isDelivering (h : stage.isDelivering = false) (place : Nat) :
    stage.dueAt place = [] := by
  refine dueAt_eq_nil ?_ place
  rintro feed tracked report next rfl
  cases h

end TrackerStage

namespace System

variable {setup : Setup} {s : System} {index : Nat} {t : Tracker} {place other : Nat}

/-- The reports that a sink has recorded of a tracker, oldest first. -/
def recorded (s : System) (index place : Nat) : List Report :=
  Delivery.reportsAt place ((s.trace.ofTask (.tracker index)).filterMap delivery?)

/-- What a sink has recorded and what is due to it is what the events made. -/
lemma recorded_append_due (h : Reachable setup s) (ht : s.roster.trackers[index]? = some t)
    (hplace : place < setup.sinks.length) :
    s.recorded index place ++ t.stage.dueAt place =
      (s.eventsTaken index).filterMap (Event.report? t.schedule) :=
  (h.history ht).handed_append_due hplace

lemma length_recorded_add_due (h : Reachable setup s) (ht : s.roster.trackers[index]? = some t)
    (hplace : place < setup.sinks.length) (hother : other < setup.sinks.length) :
    (s.recorded index place).length + (t.stage.dueAt place).length =
      (s.recorded index other).length + (t.stage.dueAt other).length := by
  rw [← List.length_append, ← List.length_append, recorded_append_due h ht hplace,
    recorded_append_due h ht hother]

/-- A sink has recorded no more than the sinks before it, and nothing else. -/
lemma recorded_isPrefix (h : Reachable setup s) (ht : s.roster.trackers[index]? = some t)
    (hle : place ≤ other) (hother : other < setup.sinks.length) :
    s.recorded index other <+: s.recorded index place := by
  have hplace : place < setup.sinks.length := Nat.lt_of_le_of_lt hle hother
  have hsum := length_recorded_add_due h ht hplace hother
  have hdue := t.stage.length_dueAt_mono hle
  -- both are the beginning of what the events made
  refine List.prefix_of_prefix_length_le ⟨_, recorded_append_due h ht hother⟩
    ⟨_, recorded_append_due h ht hplace⟩ ?_
  omega

/-- Whatever the sinks answer, whether they are held and whenever the tracker is cancelled: each
sink has recorded the beginning of what the sink before it has recorded, and the last one is not
more than one report behind the first. As soon as the tracker is not inside a call to a sink, be it
that it waits or that it has finished, all of them have recorded the same, which is what the events
that it took make one by one. Of a tracker that runs alone, this is all that the sinks have
recorded. -/
theorem no_torn_fan_out (h : Reachable setup s) (ht : s.roster.trackers[index]? = some t) :
    (∀ place, place + 1 < setup.sinks.length →
      s.recorded index (place + 1) <+: s.recorded index place) ∧
    (∀ place < setup.sinks.length,
      (s.recorded index 0).length ≤ (s.recorded index place).length + 1) ∧
    (t.stage.isDelivering = false → ∀ place < setup.sinks.length,
      s.recorded index place = (s.eventsTaken index).filterMap (Event.report? t.schedule)) ∧
    (s.roster.trackers = [t] → ∀ place,
      Delivery.reportsAt place s.trace.deliveries = s.recorded index place) := by
  refine ⟨fun place hplace => recorded_isPrefix h ht (Nat.le_succ place) hplace,
    fun place hplace => ?_, fun hstage place hplace => ?_, fun halone place => ?_⟩
  · have hfirst : 0 < setup.sinks.length := Nat.lt_of_le_of_lt (Nat.zero_le place) hplace
    have hsum := length_recorded_add_due h ht hfirst hplace
    have hdue := t.stage.length_dueAt_le_one place
    omega
  · have hmade := recorded_append_due h ht hplace
    rwa [TrackerStage.dueAt_of_not_isDelivering hstage, List.append_nil] at hmade
  · have hindex : index < s.roster.trackers.length := (List.getElem?_eq_some_iff.mp ht).1
    rw [halone, List.length_singleton] at hindex
    obtain rfl : index = 0 := by omega
    rw [h.deliveries_of_alone halone]
    rfl

end System

namespace Sample

/-- The first of two sinks has refused the failure of a backup and the second one is held up, when
the tracker is cancelled and the end of its watch comes in. -/
def tornNow : List Move :=
  halfway ++ [.input (.holdSinks true), .input .cancel, .input (.close .backup)]

/-- The second sink goes on. -/
def mended : List Move :=
  tornNow ++ .input (.holdSinks false) :: steps 2

end Sample

/-- A tracker that is cancelled between two sinks leaves the second one a report behind only until
it has finished. -/
theorem System.no_torn_fan_out_cancelledHalfway :
    ∃ t u, Reachable Sample.setup (Sample.systemAfter Sample.tornNow) ∧
      Reachable Sample.setup (Sample.systemAfter Sample.mended) ∧
      (Sample.systemAfter Sample.tornNow).roster.trackers[0]? = some t ∧
      (Sample.systemAfter Sample.mended).roster.trackers[0]? = some u ∧
      t.stage.isDelivering = true ∧
      (Sample.systemAfter Sample.tornNow).recorded 0 1 <+:
        (Sample.systemAfter Sample.tornNow).recorded 0 0 ∧
      (Sample.systemAfter Sample.tornNow).recorded 0 1 ≠
        (Sample.systemAfter Sample.tornNow).recorded 0 0 ∧
      u.stage = .finished none ∧
      ∀ place < 2, (Sample.systemAfter Sample.mended).recorded 0 place =
        [.failure "backup failed: disk full"] := by
  have htorn : Reachable Sample.setup (Sample.systemAfter Sample.tornNow) := ⟨Sample.tornNow, rfl⟩
  have hmended : Reachable Sample.setup (Sample.systemAfter Sample.mended) := ⟨Sample.mended, rfl⟩
  obtain ⟨t, ht⟩ : ∃ t, (Sample.systemAfter Sample.tornNow).roster.trackers[0]? = some t := ⟨_, rfl⟩
  obtain ⟨u, hu⟩ : ∃ u, (Sample.systemAfter Sample.mended).roster.trackers[0]? = some u := ⟨_, rfl⟩
  have htstage : t.stage.isDelivering = true := by
    obtain rfl := Option.some.inj (ht.symm.trans rfl)
    rfl
  have hustage : u.stage = .finished none := by
    obtain rfl := Option.some.inj (hu.symm.trans rfl)
    rfl
  have huschedule : u.schedule = "nightly" := by
    obtain rfl := Option.some.inj (hu.symm.trans rfl)
    rfl
  obtain ⟨hbefore, -⟩ := System.no_torn_fan_out htorn ht
  obtain ⟨-, -, hsame, -⟩ := System.no_torn_fan_out hmended hu
  have hbehind : (Sample.systemAfter Sample.tornNow).recorded 0 1 = [] := rfl
  have hahead : (Sample.systemAfter Sample.tornNow).recorded 0 0 =
      [.failure "backup failed: disk full"] := rfl
  refine ⟨t, u, htorn, hmended, ht, hu, htstage, hbefore 0 (by decide), ?_, hustage, ?_⟩
  · rw [hbehind, hahead]
    exact fun h => by cases h
  · intro place hplace
    rw [hsame (by rw [hustage]; rfl) place hplace, huschedule]
    rfl

end BackupMonitor
