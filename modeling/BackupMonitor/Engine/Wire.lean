import BackupMonitor.Api.Stream
import BackupMonitor.Engine.Server
/-!
# Watches over a connection

What comes in over a connection are raw items. Whoever holds the watch does not see them: it polls
for events, and the items are sorted on the way. The stream is stopped by the first item that ends
it, and what is no event is passed over. Nothing is read that was not polled for, so items pile up
on the wire, and whatever comes in after the item that stops the stream is never read.
-/

namespace BackupMonitor

open Api (WatchItem)

/-- What is done about a raw item. -/
inductive WatchStep where
  /-- It is passed on as an event. -/
  | emit (event : Event)
  /-- It is passed over. -/
  | skip
  /-- It stops the stream. -/
  | stop

/-- Sorts a raw item. -/
def WatchStep.ofItem : WatchItem → WatchStep
  | .event event => emit event
  | .bookmark => skip
  | .refused _ => stop
  | .broken => stop

/-- The answer to a poll. -/
inductive Poll where
  /-- Nothing has come in. -/
  | pending
  /-- The stream has ended. -/
  | ended
  /-- The next event. -/
  | event (event : Event)

/-- What comes in over a connection at once. -/
structure Chunk where
  /-- The items, oldest first. -/
  items : List WatchItem := []
  /-- Whether the server closes the connection after them. -/
  closes : Bool := false

/-- A connection, as far as it has not been read. -/
structure Wire where
  /-- The items that have come in, oldest first. -/
  items : List WatchItem := []
  /-- Whether the server has closed the connection after these items. -/
  closed : Bool := false
  /-- Whether the stream was stopped. -/
  stopped : Bool := false

/-- What a poll leads to. -/
structure Polled where
  /-- The answer. -/
  answer : Poll
  /-- What is left on the wire. -/
  wire : Wire
  /-- What is logged. -/
  log : List Log.Line := []

namespace Wire

/-- Reads items until one of them answers the poll. -/
def pollItems (kind : ResourceKind) (closed : Bool) : List WatchItem → Polled
  | [] => { answer := if closed then .ended else .pending, wire := { closed } }
  | item :: items =>
    match WatchStep.ofItem item with
    | .emit event => { answer := .event event, wire := { items, closed } }
    | .skip => pollItems kind closed items
    | .stop =>
      { answer := .ended, wire := { items, closed, stopped := true }, log := item.log kind }

/-- Polls the stream. -/
def poll (kind : ResourceKind) (wire : Wire) : Polled :=
  if wire.stopped then { answer := .ended, wire } else pollItems kind wire.closed wire.items

/-- The answers to that many polls. -/
def answers (kind : ResourceKind) : Nat → Wire → List Poll
  | 0, _ => []
  | count + 1, wire => (wire.poll kind).answer :: answers kind count (wire.poll kind).wire

/-- What that many polls log. -/
def logs (kind : ResourceKind) : Nat → Wire → List Log.Line
  | 0, _ => []
  | count + 1, wire => (wire.poll kind).log ++ logs kind count (wire.poll kind).wire

/-- Takes in what comes in next; after the end of the connection nothing does. -/
def receive (wire : Wire) (chunk : Chunk) : Wire :=
  if wire.closed then wire
  else { wire with items := wire.items ++ chunk.items, closed := chunk.closes }

end Wire

end BackupMonitor
