import BackupMonitor.Engine.Watcher
/-!
# The system of tasks

A system is the API server, watchers and their trackers, and the trace of what they did. It changes
in two ways: by input from outside (`System.apply`), and by a step of one of its tasks
(`System.step`). Any task that can take a step may be the next to do so.

`System.advance` runs the tasks in one particular order, the order of waking: a task that can take
a step stands in a queue, the first one steps until it has to wait, and whom it wakes goes to the
end.

Trackers can also run without a watcher; their token is then the root.
-/

namespace BackupMonitor

/-- The tasks that are started from outside. -/
inductive Role where
  /-- One tracker on its own. -/
  | tracker (schedule : String)
  /-- A watcher, which starts trackers. -/
  | watcher (cluster : String)
deriving DecidableEq, Repr

/-- Input from outside. -/
inductive Input where
  /-- A task of that role starts. -/
  | start (role : Role)
  /-- The server has other objects of a kind. -/
  | items (kind : ResourceKind) (objects : List Object)
  /-- A change of an object of a kind, for every watch of that kind that is open. -/
  | event (kind : ResourceKind) (event : Event)
  /-- Every open watch of a kind ends. -/
  | close (kind : ResourceKind)
  /-- Something comes in over the watch of one task, if that is open. -/
  | arrive (task : TaskId) (arrival : Arrival)
  /-- Calls fail from now on with a message, or work again. -/
  | fault (verb : Verb) (kind : ResourceKind) (message : Option String)
  /-- Calls wait from now on, or go on. -/
  | hold (verb : Verb) (kind : ResourceKind) (held : Bool)
  /-- Calls to sinks wait from now on, or go on. -/
  | holdSinks (held : Bool)
  /-- The root token is cancelled. -/
  | cancel

/-- The state of a system. -/
structure System where
  /-- The API server. -/
  server : Server := {}
  /-- Whether calls to sinks wait. -/
  sinksHeld : Bool := false
  /-- The trackers. -/
  roster : Roster := {}
  /-- The watchers, in the order in which they started. -/
  watchers : List Watcher := []
  /-- What the tasks did. -/
  trace : Trace := []

namespace System

/-- Starts a task of a role. -/
def start (s : System) : Role → System
  | .tracker schedule =>
    { s with roster :=
        { s.roster with trackers := s.roster.trackers ++ [{ schedule, token := Tokens.root }] } }
  | .watcher cluster => { s with watchers := s.watchers ++ [{ cluster }] }

/-- Changes the open watch of every task in a way of its own. -/
def withFeeds (s : System) (F : TaskId → Feed → Feed) : System :=
  { s with
    roster := s.roster.withFeeds (F ∘ .tracker)
    watchers := s.watchers.mapIdx fun index w => w.updateFeed (F (.watcher index)) }

/-- Changes the open watches of a kind, all in the same way. -/
def feedsOf (kind : ResourceKind) (f : Feed → Feed) (task : TaskId) : Feed → Feed :=
  if task.kind = kind then f else id

/-- Changes the open watch of one task. -/
def feedOf (task : TaskId) (f : Feed → Feed) (other : TaskId) : Feed → Feed :=
  if other = task then f else id

/-- Takes in input from outside. -/
def apply (s : System) : Input → System
  | .start role => s.start role
  | .items kind objects => { s with server := s.server.update kind ({ · with items := objects }) }
  | .event kind event => s.withFeeds (feedsOf kind (·.push event))
  | .close kind => s.withFeeds (feedsOf kind .close)
  | .arrive task arrival => s.withFeeds (feedOf task (·.add arrival))
  | .fault verb kind message =>
    { s with server :=
        s.server.update kind (·.updateGate verb ({ · with fault := message })) }
  | .hold verb kind held =>
    { s with server := s.server.update kind (·.updateGate verb ({ · with held })) }
  | .holdSinks held => { s with sinksHeld := held }
  | .cancel =>
    { s with roster := { s.roster with tokens := s.roster.tokens.cancel Tokens.root } }

/-- What a task with that token sees. -/
def view (setup : Setup) (s : System) (token : Token) : View where
  setup := setup
  server := s.server
  sinksHeld := s.sinksHeld
  cancelled := s.roster.tokens.isCancelled token
  trace := s.trace

/-- The server after a task did something: it counts the lists that succeed. -/
def serverAfter (server : Server) (did : List Occurrence) : Server :=
  did.foldl
    (fun server what =>
      match what with
      | .listed kind _ =>
        server.update kind fun shelf => { shelf with listed := shelf.listed + 1 }
      | _ => server)
    server

/-- Puts what a task did at the end of the trace. -/
def record (s : System) (task : TaskId) (did : List Occurrence) : System :=
  { s with
    server := serverAfter s.server did
    trace := s.trace ++ did.map (⟨task, ·⟩) }

/-- What is logged about a tracker that a watcher started when it fails. -/
def failureLog (s : System) (did : List Occurrence) : List Occurrence :=
  if s.watchers.isEmpty then []
  else
    did.filterMap fun what =>
      match what with
      | .finished (some e) => some (.logged ⟨.watcher, .error, "error watching backups",
          [("error", e.message)]⟩)
      | _ => none

/-- One step of a task; `none` if it waits or has finished. -/
def step (setup : Setup) (s : System) : TaskId → Option System
  | .watcher index =>
    match s.watchers[index]? with
    | none => none
    | some w =>
      match w.step (s.view setup Tokens.root) s.roster with
      | none => none
      | some change =>
        some ({ s with
          roster := change.roster
          watchers := s.watchers.modify index ({ · with stage := change.stage }) }.record
            (.watcher index) change.did)
  | .tracker index =>
    match s.roster.trackers[index]? with
    | none => none
    | some t =>
      match t.step (s.view setup t.token) with
      | none => none
      | some (stage, did) =>
        some ({ s with roster := s.roster.setStage index stage }.record (.tracker index)
          (did ++ s.failureLog did))

/-- All tasks of the system. -/
def tasks (s : System) : List TaskId :=
  (List.range s.watchers.length).map .watcher ++
    (List.range s.roster.trackers.length).map .tracker

/-- The tasks that can take a step. -/
def enabled (setup : Setup) (s : System) : List TaskId :=
  s.tasks.filter fun task => (s.step setup task).isSome

/-- Whether no task can take a step. -/
def isAtRest (setup : Setup) (s : System) : Bool :=
  (s.enabled setup).isEmpty

/-- An upper bound of the number of steps before the system comes to rest. -/
def budget (setup : Setup) (s : System) : Nat :=
  (s.watchers.map (·.budget s.server.schedules.items.length)).foldr (· + ·) 0 +
  (s.roster.trackers.map (·.budget setup.sinks.length)).foldr (· + ·) 0

/-- Puts the tasks that can take a step at the end of a queue, unless they are in it. -/
def enqueue (setup : Setup) (s : System) (queue : List TaskId) : List TaskId :=
  queue ++ (s.enabled setup).filter (!queue.contains ·)

/-- The system after a step of the first task of a queue that can take one, and the queue after it.
Tasks that have to wait are dropped from the queue. -/
def stepNext? (setup : Setup) (s : System) : List TaskId → Option (System × List TaskId)
  | [] => none
  | task :: queue =>
    match s.step setup task with
    | some next => some (next, next.enqueue setup (task :: queue))
    | none => stepNext? setup s queue

/-- Lets the tasks of a queue take at most `fuel` steps. -/
def runFor (setup : Setup) : Nat → System → List TaskId → System
  | 0, s, _ => s
  | fuel + 1, s, queue =>
    match s.stepNext? setup queue with
    | some (next, queue) => runFor setup fuel next queue
    | none => s

/-- Lets the tasks of a queue, and those that they wake, run until none can take a step. -/
def settle (setup : Setup) (s : System) (queue : List TaskId) : System :=
  runFor setup (s.budget setup + 1) s queue

/-- Takes in a batch of input at once, and notes in a queue which tasks it wakes. -/
def applyAll (setup : Setup) (s : System) (batch : List Input) : System × List TaskId :=
  batch.foldl
    (fun (s, queue) input =>
      let next := s.apply input
      (next, next.enqueue setup queue))
    (s, s.enqueue setup [])

/-- Takes in a batch of input at once and lets the tasks run until none can take a step. -/
def advance (setup : Setup) (s : System) (batch : List Input) : System :=
  let (next, queue) := s.applyAll setup batch
  next.settle setup queue

/-! ## Looking at a system -/

/-- The number of open watches of backups. -/
def openBackupWatches (s : System) : Nat :=
  (s.roster.trackers.filter (·.isWatching)).length

/-- The number of open watches of schedules. -/
def openScheduleWatches (s : System) : Nat :=
  (s.watchers.filter (·.isWatching)).length

/-- Whether a task was started from outside. -/
def isStartedFromOutside (s : System) : TaskId → Bool
  | .watcher _ => true
  | .tracker _ => s.watchers.isEmpty

/-- The result of the last task started from outside that has finished. -/
def result? (s : System) : Option (Option TaskError) :=
  (s.trace.filterMap fun entry =>
    match entry.what with
    | .finished error => if s.isStartedFromOutside entry.task then some error else none
    | _ => none).getLast?

end System

end BackupMonitor
