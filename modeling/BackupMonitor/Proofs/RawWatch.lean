import BackupMonitor.Engine.Wire
import Mathlib.Data.List.TakeWhile
import Mathlib.Tactic.Lemma

/-!
# A raw watch is a feed

Reading a connection item by item, when it is polled, comes to the same as having all events of its
items at hand: `Wire.feed` is the feed that a wire amounts to, a poll takes the first event of that
feed (`Wire.poll_eq`), and items come in at its end (`Wire.feed_receive`). So what a stream yields,
however often it is polled, are the events before the first item that ends it, and the end after
that (`Wire.answers_eq`), and all that it logs is that item (`Wire.logs_eq`).
-/

namespace BackupMonitor

open Api (WatchItem)

namespace Api.WatchItem

lemma events_nil : events [] = [] := rfl

lemma events_cons (item : WatchItem) (items : List WatchItem) :
    events (item :: items) =
      if item.endsStream then [] else item.event?.toList ++ events items := by
  unfold events
  rw [List.takeWhile_cons]
  cases item <;> rfl

/-- Without an item that ends the stream all events count, and so do the later ones. -/
lemma events_append {items : List WatchItem} (h : items.any (·.endsStream) = false)
    (more : List WatchItem) : events (items ++ more) = events items ++ events more := by
  induction items with
  | nil => rfl
  | cons item items ih =>
    rw [List.any_cons, Bool.or_eq_false_iff] at h
    rw [List.cons_append, events_cons, events_cons, h.1, ih h.2]
    exact (List.append_assoc _ _ _).symm

/-- What comes in after an item that ends the stream does not count. -/
lemma events_append_of_any {items : List WatchItem} (h : items.any (·.endsStream) = true)
    (more : List WatchItem) : events (items ++ more) = events items := by
  induction items with
  | nil => cases h
  | cons item items ih =>
    rw [List.cons_append, events_cons, events_cons]
    cases hitem : item.endsStream with
    | true => rfl
    | false =>
      rw [List.any_cons, hitem, Bool.false_or] at h
      rw [ih h]

/-- Without an item that ends the stream nothing is left out but the bookmarks. -/
lemma events_eq_filterMap {items : List WatchItem} (h : items.any (·.endsStream) = false) :
    events items = items.filterMap event? := by
  rw [List.any_eq_false] at h
  unfold events
  rw [List.takeWhile_eq_self_iff.mpr fun item hitem => by simpa using h item hitem]

/-- What comes in from the first item that ends the stream on does not count. -/
lemma events_append_cons {before : List WatchItem} (h : before.any (·.endsStream) = false)
    {cut : WatchItem} (hcut : cut.endsStream = true) (after : List WatchItem) :
    events (before ++ cut :: after) = before.filterMap event? := by
  rw [events_append h, events_cons, hcut, if_pos rfl, List.append_nil, events_eq_filterMap h]

end Api.WatchItem

namespace Chunk

/-- Whether nothing counts that comes in after this. -/
def isLast (chunk : Chunk) : Bool :=
  chunk.closes || chunk.items.any (·.endsStream)

/-- Two chunks bring the same events and both end the watch, or both do not. -/
structure Alike (chunk chunk' : Chunk) : Prop where
  /-- They bring the same events. -/
  events : WatchItem.events chunk.items = WatchItem.events chunk'.items
  /-- They both end the watch, or both do not. -/
  isLast : chunk.isLast = chunk'.isLast

/-- After the same events an item that ends the stream is like a connection that is closed, whatever
bookmarks there were and whatever comes in later. -/
lemma alike_cut {before before' : List WatchItem} (h : before.any (·.endsStream) = false)
    (h' : before'.any (·.endsStream) = false)
    (hevents : before.filterMap WatchItem.event? = before'.filterMap WatchItem.event?)
    {cut : WatchItem} (hcut : cut.endsStream = true) (after : List WatchItem) (closes : Bool) :
    Alike { items := before ++ cut :: after, closes } { items := before', closes := true } where
  events := by
    rw [WatchItem.events_append_cons h hcut, WatchItem.events_eq_filterMap h', hevents]
  isLast := by simp [isLast, hcut]

end Chunk

/-- What brings an event, or the end of the watch, over a connection. -/
def Arrival.chunk : Arrival → Chunk
  | .event news => { items := [.event news] }
  | .ended => { closes := true }

/-- Takes in what comes in next; a watch that has ended gets nothing. -/
def Feed.receive (feed : Feed) (chunk : Chunk) : Feed :=
  if feed.closed then feed
  else { queue := feed.queue ++ WatchItem.events chunk.items, closed := chunk.isLast }

namespace Feed

lemma receive_nothing (feed : Feed) : feed.receive {} = feed := by
  obtain ⟨queue, closed⟩ := feed
  cases closed <;> simp [receive, WatchItem.events_nil, Chunk.isLast]

/-- What comes in over a connection comes in over the watch. -/
lemma receive_chunk (feed : Feed) (arrival : Arrival) :
    feed.receive arrival.chunk = feed.add arrival := by
  obtain ⟨queue, closed⟩ := feed
  cases arrival with
  | event event => cases closed <;> rfl
  | ended =>
    cases closed <;>
      simp [receive, Arrival.chunk, add, close, WatchItem.events_nil, Chunk.isLast]

lemma receive_of_alike {chunk chunk' : Chunk} (h : chunk.Alike chunk') (feed : Feed) :
    feed.receive chunk = feed.receive chunk' := by
  rw [receive, receive, h.events, h.isLast]

end Feed

/-- The feed that holds nothing but the answer to a poll. -/
def Poll.feed : Poll → Feed
  | .pending => {}
  | .ended => { closed := true }
  | .event e => { queue := [e] }

namespace Feed

/-- What a task finds in its watch at once. -/
def answer (feed : Feed) : Poll :=
  match feed.queue with
  | event :: _ => .event event
  | [] => if feed.closed then .ended else .pending

/-- What is left of the watch after that. -/
def rest (feed : Feed) : Feed :=
  { feed with queue := feed.queue.tail }

end Feed

namespace Wire

variable {kind : ResourceKind} {wire : Wire}

/-- The feed that a wire amounts to. -/
def feed (wire : Wire) : Feed :=
  if wire.stopped then { closed := true }
  else
    { queue := WatchItem.events wire.items
      closed := wire.closed || wire.items.any (·.endsStream) }

/-- Whether nothing counts that comes in from now on. -/
def isOver (wire : Wire) : Bool :=
  wire.stopped || wire.closed || wire.items.any (·.endsStream)

lemma closed_feed (wire : Wire) : wire.feed.closed = wire.isOver := by
  obtain ⟨items, closed, stopped⟩ := wire
  cases stopped <;> rfl

lemma feed_receive (wire : Wire) (chunk : Chunk) :
    (wire.receive chunk).feed = wire.feed.receive chunk := by
  obtain ⟨old, closed, stopped⟩ := wire
  cases stopped with
  | true => cases closed <;> rfl
  | false =>
    cases closed with
    | true => simp [receive, feed, Feed.receive]
    | false =>
      cases hold : old.any (·.endsStream) with
      | true => simp [receive, feed, Feed.receive, hold, WatchItem.events_append_of_any hold]
      | false =>
        simp [receive, feed, Feed.receive, hold, WatchItem.events_append hold, Chunk.isLast]

lemma pollItems_eq (closed : Bool) (items : List WatchItem) :
    (pollItems kind closed items).answer = (feed { items, closed }).answer ∧
      (pollItems kind closed items).wire.feed = (feed { items, closed }).rest := by
  induction items with
  | nil => cases closed <;> exact ⟨rfl, rfl⟩
  | cons item items ih =>
    cases item with
    | event e => exact ⟨rfl, rfl⟩
    | bookmark => exact ih
    | refused status => cases closed <;> exact ⟨rfl, rfl⟩
    | broken => cases closed <;> exact ⟨rfl, rfl⟩

/-- A poll answers with what the feed holds first, and leaves the rest. -/
theorem poll_eq (kind : ResourceKind) (wire : Wire) :
    (wire.poll kind).answer = wire.feed.answer ∧ (wire.poll kind).wire.feed = wire.feed.rest := by
  obtain ⟨items, closed, stopped⟩ := wire
  cases stopped with
  | true => exact ⟨rfl, rfl⟩
  | false => exact pollItems_eq closed items

/-- However often a wire is polled, it yields the events of the feed in order, and then says that
the watch has ended, or that nothing has come in. -/
theorem answers_eq (kind : ResourceKind) (count : Nat) (wire : Wire) :
    wire.answers kind count =
      (wire.feed.queue.map Poll.event ++
        List.replicate count (if wire.feed.closed then Poll.ended else .pending)).take count := by
  induction count generalizing wire with
  | zero => simp [answers]
  | succ count ih =>
    obtain ⟨hanswer, hrest⟩ := poll_eq kind wire
    rw [answers, ih, hanswer, hrest]
    cases hqueue : wire.feed.queue with
    | nil => simp [Feed.answer, Feed.rest, hqueue, List.replicate_succ]
    | cons e queue =>
      simp [Feed.answer, Feed.rest, hqueue, List.take_append]
      omega

lemma logs_of_stopped (h : wire.stopped = true) (count : Nat) : wire.logs kind count = [] := by
  have hpoll : wire.poll kind = { answer := .ended, wire } := if_pos h
  induction count with
  | zero => rfl
  | succ count ih => rw [logs, hpoll, ih]; rfl

lemma logs_nil (closed : Bool) (count : Nat) : logs kind count { closed } = [] := by
  induction count with
  | zero => rfl
  | succ count ih => exact ih

/-- A stream logs the item that ends it, at the poll that comes to it, and nothing else. -/
theorem logs_eq (closed : Bool) (items : List WatchItem) (count : Nat) :
    logs kind count { items, closed } =
      if (WatchItem.events items).length < count then WatchItem.logAll kind items else [] := by
  induction items generalizing count with
  | nil => rw [logs_nil]; exact (ite_self _).symm
  | cons item items ih =>
    cases count with
    | zero => rfl
    | succ count =>
      have hstopped : logs kind count { items, closed, stopped := true } = [] :=
        logs_of_stopped rfl count
      cases item with
      | event e =>
        have hcount : (WatchItem.events (.event e :: items)).length =
          (WatchItem.events items).length + 1 := rfl
        rw [hcount]
        simp only [Nat.add_lt_add_iff_right]
        exact ih count
      | bookmark => exact ih (count + 1)
      | refused status => exact congrArg (_ ++ ·) hstopped
      | broken => exact congrArg (_ ++ ·) hstopped

end Wire

end BackupMonitor
