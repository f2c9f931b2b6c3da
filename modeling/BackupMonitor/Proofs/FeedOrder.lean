import BackupMonitor.Proofs.Observations
import BackupMonitor.Proofs.TrackerMove

/-!
# Events are taken in their order

A tracker takes the events of a watch in the order in which they came in. `Tracker.Receives` says
how a tracker can stand to events that came in for it: the ones that it has not taken wait in its
feed, before anything else; or it has finished without them; or it has taken all of them. The end of
a watch fits in, because a tracker sees it only when nothing waits any more.
-/

namespace BackupMonitor

open Occurrence

namespace Tracker

variable {setup : Setup} {view : View} {cancelled : Bool} {t u : Tracker} {did : List Occurrence}
  {count : Nat} {waiting taken : List Event}

/-! ## The feed of a tracker -/

lemma feed?_updateFeed (t : Tracker) (f : Feed → Feed) :
    (t.updateFeed f).feed? = t.feed?.map f := by
  obtain ⟨schedule, token, stage⟩ := t
  cases stage <;> rfl

/-- A tracker that takes an event goes on with the rest of its feed. -/
lemma feed?_take (t : Tracker) (schedule : String) (feed : Feed) (tracked : Tracked)
    (event : Event) :
    Tracker.feed? { t with stage := (take setup schedule feed tracked event).1 } = some feed := by
  simp only [take]
  split
  · split <;> rfl
  · rfl

/-- A tracker that hands out a report leaves its feed alone. -/
lemma feed?_deliver (t : Tracker) (feed : Feed) (tracked : Tracked) (report : Report)
    (place : Nat) :
    Tracker.feed? { t with stage := (deliver view feed tracked report place).1 } = some feed := by
  simp only [deliver]
  split
  · rfl
  · split <;> rfl

/-! ## What came in for a tracker -/

/-- How a tracker that took the events `taken`, oldest first, stands to events that came in for it
at the end of those. -/
inductive Receives (waiting taken : List Event) (t : Tracker) : Prop where
  /-- The events that it has not taken wait in its feed, before any others. -/
  | waits {feed : Feed} {more : List Event} (hfeed : t.feed? = some feed)
      (hqueue : taken ++ feed.queue = waiting ++ more)
  /-- It has finished and took no others. -/
  | stopped (hfinished : t.isFinished = true) (htaken : taken <+: waiting)
  /-- It took all of them first. -/
  | took (htaken : waiting <+: taken)

/-- What the tracker took and any first part of these events are two beginnings of one list. -/
lemma Receives.isPrefix_or_isPrefix (h : Receives waiting taken t) {front : List Event}
    (hfront : front <+: waiting) : front <+: taken ∨ taken <+: front := by
  cases h with
  | @waits feed more hfeed hqueue =>
    have htaken : taken <+: waiting ++ more := by
      rw [← hqueue]
      exact List.prefix_append _ _
    exact List.prefix_or_prefix_of_prefix (hfront.trans (List.prefix_append _ _)) htaken
  | stopped hfinished htaken => exact List.prefix_or_prefix_of_prefix hfront htaken
  | took htaken => exact .inl (hfront.trans htaken)

/-- A tracker that took enough events took these first. -/
lemma Receives.isPrefix (h : Receives waiting taken t) (hlength : waiting.length ≤ taken.length) :
    waiting <+: taken := by
  rcases h.isPrefix_or_isPrefix List.prefix_rfl with hwaiting | htaken
  · exact hwaiting
  · obtain rfl : taken = waiting := htaken.eq_of_length_le hlength
    exact List.prefix_rfl

/-- A step of a tracker takes what waits first, and sees the end of the watch when nothing waits. -/
lemma Step.receives {stage : TrackerStage} (h : Step view t.schedule t.stage stage did)
    {feed : Feed} {more : List Event} (hfeed : t.feed? = some feed)
    (hqueue : taken ++ feed.queue = waiting ++ more) :
    Receives waiting (taken ++ did.filterMap event?) { t with stage } := by
  obtain ⟨schedule, token, now⟩ := t
  cases h with
  | @take feed tracked event queue hcancel hnext =>
    obtain rfl := Option.some.inj hfeed
    have hrest : taken ++ [event] ++ queue = waiting ++ more := by
      rw [← hqueue, hnext, List.append_assoc]
      rfl
    rw [filterMap_event?_take]
    exact .waits (feed?_take ⟨schedule, token, .following feed tracked⟩ _ _ _ _) hrest
  | deliver =>
    obtain rfl := Option.some.inj hfeed
    rw [filterMap_event?_deliver, List.append_nil]
    exact .waits (feed?_deliver ⟨schedule, token, .spawned⟩ _ _ _ _) hqueue
  | sawEnd hcancel hempty hclosed =>
    obtain rfl := Option.some.inj hfeed
    rw [hempty, List.append_nil] at hqueue
    refine .took ?_
    rw [hqueue, List.append_assoc]
    exact List.prefix_append _ _
  | cancel =>
    -- what it took and what came in are two beginnings of one list
    have htaken : taken <+: waiting ++ more := by
      rw [← hqueue]
      exact List.prefix_append _ _
    have hnone : taken ++ (finish none).2.filterMap event? = taken := List.append_nil taken
    rw [hnone]
    rcases List.prefix_or_prefix_of_prefix htaken (List.prefix_append _ _) with htaken | htaken
    · exact .stopped rfl htaken
    · exact .took htaken
  | begin => cases hfeed
  | callList => cases hfeed
  | listFails => cases hfeed
  | listed => cases hfeed
  | callWatch => cases hfeed
  | watchFails => cases hfeed
  | opened => cases hfeed

/-- Whatever a move means to a tracker, it takes the events in the order in which they came in. -/
theorem Moves.receives (h : Moves setup cancelled t u did count)
    (hreceives : Receives waiting taken t) :
    Receives waiting (taken ++ did.filterMap event?) u := by
  cases hreceives with
  | took htaken => exact .took (htaken.trans (List.prefix_append _ _))
  | stopped hfinished htaken =>
    cases h with
    | fed hf => exact .stopped (by rw [isFinished_updateFeed, hfinished]) (by simpa using htaken)
    | stepped hsetup hcancelled lines hstep =>
      rw [hstep.isFinished_eq_false] at hfinished
      cases hfinished
  | @waits feed more hfeed hqueue =>
    cases h with
    | @fed f hf =>
      obtain ⟨next, hnext⟩ := hf feed
      have hrest : taken ++ (f feed).queue = waiting ++ (more ++ next) := by
        rw [hnext, ← List.append_assoc, hqueue, List.append_assoc]
      rw [List.filterMap_nil, List.append_nil]
      exact .waits (by rw [feed?_updateFeed, hfeed]; rfl) hrest
    | stepped hsetup hcancelled lines hstep =>
      rw [List.filterMap_append, filterMap_event?_logged, List.append_nil]
      exact hstep.receives hfeed hqueue

end Tracker

end BackupMonitor
