import BackupMonitor.Proofs.RosterInvariant

/-!
# What a move means to one tracker

Whatever happens to a system, one of its trackers notices little of it: something comes in over its
watch, or it takes a step. `System.moves_of_move` says so, and what the tracker did by then.
-/

namespace BackupMonitor

/-- Whether this is a step of a task. -/
def Move.isStepOf (task : TaskId) : Move → Bool
  | .input _ => false
  | .step other => other == task

namespace Tracker

/-- What a move means to a tracker whose token is cancelled, or is not: how it stands afterwards,
what it did, and how many steps it took. -/
inductive Moves (setup : Setup) (cancelled : Bool) (t : Tracker) :
    Tracker → List Occurrence → Nat → Prop where
  /-- It takes no step; something may come in over its watch. -/
  | fed {f : Feed → Feed} (hf : Feed.IsIntake f) : Moves setup cancelled t (t.updateFeed f) [] 0
  /-- It takes a step, which may be followed by log lines. -/
  | stepped {view : View} {stage : TrackerStage} {did : List Occurrence}
      (hsetup : view.setup = setup) (hcancelled : view.cancelled = cancelled)
      (lines : List Log.Line) (hstep : Step view t.schedule t.stage stage did) :
      Moves setup cancelled t { t with stage } (did ++ lines.map .logged) 1

variable {setup : Setup} {cancelled : Bool} {t u : Tracker} {did : List Occurrence} {count : Nat}

lemma Moves.refl (setup : Setup) (cancelled : Bool) (t : Tracker) :
    Moves setup cancelled t t [] 0 := by
  have h : Moves setup cancelled t (t.updateFeed id) [] 0 := .fed Feed.isIntake_id
  rwa [updateFeed_id] at h

/-- A tracker goes on under its token and for its schedule. -/
lemma Moves.origin_eq (h : Moves setup cancelled t u did count) : u.origin = t.origin := by
  cases h with
  | fed hf => exact t.origin_updateFeed _
  | stepped => rfl

lemma isFinished_updateFeed (t : Tracker) (f : Feed → Feed) :
    (t.updateFeed f).isFinished = t.isFinished := by
  obtain ⟨schedule, token, stage⟩ := t
  cases stage <;> rfl

/-- A tracker that has finished takes no step. -/
lemma Step.isFinished_eq_false {view : View} {stage : TrackerStage}
    (h : Step view t.schedule t.stage stage did) : t.isFinished = false := by
  obtain ⟨schedule, token, now⟩ := t
  cases h with
  | cancel hcancel hstage =>
    cases now with
    | finished error => cases hstage
    | _ => rfl
  | _ => rfl

end Tracker

namespace System

open Tracker (Moves)

variable {setup : Setup} {s next : System} {index : Nat} {t : Tracker}

/-- Input that starts no tracker reaches a tracker over its watch only. -/
lemma exists_updateFeed_of_apply (ht : s.roster.trackers[index]? = some t) (input : Input) :
    ∃ f, Feed.IsIntake f ∧ (s.apply input).roster.trackers[index]? = some (t.updateFeed f) := by
  have hsame : ∃ f, Feed.IsIntake f ∧ s.roster.trackers[index]? = some (t.updateFeed f) :=
    ⟨id, Feed.isIntake_id, by rw [Tracker.updateFeed_id, ht]⟩
  have hfeeds {F : TaskId → Feed → Feed} (hF : ∀ task, Feed.IsIntake (F task)) :
      ∃ g, Feed.IsIntake g ∧
        (s.withFeeds F).roster.trackers[index]? = some (t.updateFeed g) :=
    ⟨_, hF _, by rw [getElem?_trackers_withFeeds, ht, Option.map_some]⟩
  cases input with
  | start role =>
    cases role with
    | watcher cluster => exact hsame
    | tracker schedule =>
      -- a tracker that starts comes after those that are there
      refine ⟨id, Feed.isIntake_id, ?_⟩
      show (s.roster.trackers ++ [_])[index]? = _
      rw [Tracker.updateFeed_id, List.getElem?_append_left (List.getElem?_eq_some_iff.mp ht).1, ht]
  | event kind event => exact hfeeds (isIntake_feedsOf (Feed.isIntake_push event) kind)
  | close kind => exact hfeeds (isIntake_feedsOf Feed.isIntake_close kind)
  | arrive task arrival => exact hfeeds (isIntake_feedOf (Feed.isIntake_add arrival) task)
  | items => exact hsame
  | fault => exact hsame
  | hold => exact hsame
  | holdSinks => exact hsame
  | cancel => exact hsame

@[simp] lemma trace_apply (s : System) (input : Input) : (s.apply input).trace = s.trace := by
  cases input with
  | start role => cases role <;> rfl
  | _ => rfl

/-- What a move means to a tracker, and what the tracker did by then. -/
theorem moves_of_move {move : Move} (h : s.move setup move = some next)
    (ht : s.roster.trackers[index]? = some t) :
    ∃ u did, next.roster.trackers[index]? = some u ∧
      next.trace.ofTask (.tracker index) = s.trace.ofTask (.tracker index) ++ did ∧
      Moves setup (s.roster.tokens.isCancelled t.token) t u did
        (if move.isStepOf (.tracker index) then 1 else 0) := by
  cases move with
  | input input =>
    obtain rfl : s.apply input = next := Option.some.inj h
    obtain ⟨f, hf, hu⟩ := exists_updateFeed_of_apply ht input
    exact ⟨_, [], hu, by rw [trace_apply, List.append_nil], .fed hf⟩
  | step task =>
    have h : s.step setup task = some next := h
    cases task with
    | watcher other =>
      obtain ⟨w, change, -, hchange, rfl⟩ := step_watcher_eq_some h
      obtain ⟨fresh, htrackers, -⟩ := (Watcher.step_cases hchange).extends_roster
      refine ⟨t, [], ?_, ?_, Moves.refl _ _ t⟩
      · show change.roster.trackers[index]? = some t
        rw [htrackers, List.getElem?_append_left (List.getElem?_eq_some_iff.mp ht).1, ht]
      · rw [ofTask_append_map, if_neg (by simp)]
    | tracker other =>
      obtain ⟨v, stage, did, hv, hdid, rfl⟩ := step_tracker_eq_some h
      simp only [Roster.trackers_setStage, List.getElem?_modify, ht, ofTask_append_map]
      -- it is this tracker that took the step, or another one
      by_cases hother : other = index
      · subst hother
        obtain rfl : t = v := Option.some.inj (ht.symm.trans hv)
        obtain ⟨lines, hlines⟩ := failureLog_eq_logged s did
        refine ⟨{ t with stage }, did ++ lines.map .logged, by simp, by simp [hlines], ?_⟩
        have hmoves : Moves setup (s.roster.tokens.isCancelled t.token) t { t with stage }
            (did ++ lines.map .logged) 1 := .stepped rfl rfl lines (Tracker.step_cases hdid)
        simpa [Move.isStepOf] using hmoves
      · refine ⟨t, [], by simp [hother], by simp [hother], ?_⟩
        have hcount : Move.isStepOf (.tracker index) (.step (.tracker other)) = false := by
          simpa [Move.isStepOf] using hother
        rw [hcount]
        exact Moves.refl _ _ t

/-- What every move to a tracker keeps holds of the tracker after a run. -/
theorem tracker_of_play {P : Tracker → List Occurrence → Prop}
    (hkept : ∀ {cancelled t u past did count}, Moves setup cancelled t u did count → P t past →
      P u (past ++ did))
    {moves : List Move} (h : s.play setup moves = some next)
    (ht : s.roster.trackers[index]? = some t) (hp : P t (s.trace.ofTask (.tracker index))) :
    ∃ u, next.roster.trackers[index]? = some u ∧ P u (next.trace.ofTask (.tracker index)) := by
  -- each move hands the tracker on to the next one
  induction moves generalizing s t with
  | nil =>
    obtain rfl : s = next := Option.some.inj h
    exact ⟨t, ht, hp⟩
  | cons move moves ih =>
    simp only [play] at h
    split at h
    next mid hmid =>
      obtain ⟨v, did, hv, hdid, hmoves⟩ := moves_of_move hmid ht
      exact ih h hv (by rw [hdid]; exact hkept hmoves hp)
    next => cases h

end System

end BackupMonitor
