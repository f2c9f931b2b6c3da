import BackupMonitor.Error
import BackupMonitor.Resource.Event
import BackupMonitor.Resource.Kind
/-!
# The API server as the tasks see it

For each kind of resource the server has objects that a list returns, and a gate for each way to
ask: a call that comes to a closed gate waits, and one that comes to a faulty gate fails. The
version of a list counts the lists of its kind that succeeded.
-/

namespace BackupMonitor

/-- How calls of one sort are answered. -/
structure Gate where
  /-- Whether calls wait. -/
  held : Bool := false
  /-- The message with which calls fail, if they do. -/
  fault : Option String := none
deriving DecidableEq, Repr

/-- What the server has for one kind of resource. -/
structure Shelf where
  /-- The objects that a list returns. -/
  items : List Object := []
  /-- How lists are answered. -/
  lists : Gate := {}
  /-- How watches are answered. -/
  watches : Gate := {}
  /-- How many lists succeeded. -/
  listed : Nat := 0

namespace Shelf

/-- The gate for a way to ask. -/
def gate (shelf : Shelf) : Verb → Gate
  | .list => shelf.lists
  | .watch => shelf.watches

/-- Changes the gate for a way to ask. -/
def updateGate (shelf : Shelf) (verb : Verb) (f : Gate → Gate) : Shelf :=
  match verb with
  | .list => { shelf with lists := f shelf.lists }
  | .watch => { shelf with watches := f shelf.watches }

end Shelf

/-- The API server. -/
structure Server where
  /-- What it has of scheduled backups. -/
  schedules : Shelf := {}
  /-- What it has of backups. -/
  backups : Shelf := {}

namespace Server

/-- What the server has of a kind. -/
def shelf (server : Server) : ResourceKind → Shelf
  | .scheduledBackup => server.schedules
  | .backup => server.backups

/-- Changes what the server has of a kind. -/
def update (server : Server) (kind : ResourceKind) (f : Shelf → Shelf) : Server :=
  match kind with
  | .scheduledBackup => { server with schedules := f server.schedules }
  | .backup => { server with backups := f server.backups }

end Server

/-- The answer to a list that succeeded. -/
structure Listing where
  /-- The objects. -/
  items : List Object
  /-- The point from which a watch goes on. -/
  cursor : String

/-- The cursor of a listing that has no version. -/
def anyVersion : String := "0"

/-- The listing of objects at a version, if it has one. -/
def Listing.of (items : List Object) (version : Option String) : Listing where
  items
  cursor := version.getD anyVersion

/-- What can come in over an open watch. -/
inductive Arrival where
  /-- An event. -/
  | event (event : Event)
  /-- The end of the watch. -/
  | ended

/-- What has come in over an open watch and has not been taken yet. -/
structure Feed where
  /-- The events, oldest first. -/
  queue : List Event := []
  /-- Whether the watch ends after these events. -/
  closed : Bool := false

namespace Feed

/-- Takes in an event; a watch that has ended gets none. -/
def push (feed : Feed) (event : Event) : Feed :=
  if feed.closed then feed else { feed with queue := feed.queue ++ [event] }

/-- Ends the watch after the events that have come in. -/
def close (feed : Feed) : Feed :=
  { feed with closed := true }

/-- Takes in what comes in. -/
def add (feed : Feed) : Arrival → Feed
  | .event event => feed.push event
  | .ended => feed.close

end Feed

end BackupMonitor
