import BackupMonitor.Agent.CommandLine
import BackupMonitor.Agent.Filter
import BackupMonitor.Agent.Telemetry
import BackupMonitor.Api.Client
import BackupMonitor.Engine.System
import BackupMonitor.Sink.Selection
/-!
# A run of the agent

The agent builds its sinks, makes a client, asks for the version of the server and for the owner
of its pod, and then watches the schedules of the cluster that owns it.

An agent that fails after its sinks were built hands every sink one report of an unknown state,
with the very text that it exits with. If the sinks cannot be built there is nobody to tell.
-/

namespace BackupMonitor

/-- The surroundings that an agent finds when it starts. -/
structure Surroundings where
  /-- Why no HTTP client can be made for a sink, if that is so. -/
  httpFailure : Option String := none
  /-- Why no client of the API server can be made, if that is so. -/
  clientFailure : Option Api.Failure := none
  /-- The answer to the request for the version. -/
  version : Api.Answer
  /-- The answer to the request for the pod. -/
  pod : Api.Answer
  /-- The network that sinks report over. -/
  network : SubmitRequest → SubmitAnswer

/-- How far an agent gets before it watches. -/
inductive Startup where
  /-- The sinks cannot be built. -/
  | noSinks (error : SinkError)
  /-- A step after that fails. -/
  | failed (choices : List SinkChoice) (step : String) (error : TaskError)
  /-- The schedules of a cluster are to be watched. -/
  | watching (choices : List SinkChoice) (cluster : String)
deriving DecidableEq, Repr

/-- How an agent ends. -/
structure AgentExit where
  /-- The error, if it ends badly. -/
  error : Option String
  /-- What was handed to the sinks at the end. -/
  deliveries : List Delivery := []
  /-- What was logged at the end. -/
  log : List Log.Line := []

namespace AgentExit

/-- The exit code. -/
def code (e : AgentExit) : Nat :=
  if e.error.isSome then 1 else 0

/-- What is written to standard error. -/
def stderr (e : AgentExit) : String :=
  match e.error with
  | some message => "Error: " ++ message
  | none => ""

end AgentExit

/-- Surroundings in which no server answers. -/
def Surroundings.offline : Surroundings where
  version := .unanswered "ServiceError: client error (Connect)"
  pod := .unanswered "ServiceError: client error (Connect)"
  network := SubmitAnswer.unreachable

namespace Agent

/-- The step in which a client is made. -/
def clientStep : String := "failed to create Kubernetes client"

/-- The step in which the version is asked for. -/
def versionStep : String := "failed to get Kubernetes server version"

/-- The step in which the owner of the pod is asked for. -/
def clusterStep : String := "failed to get CNPG cluster information"

/-- The step in which schedules are watched. -/
def watchStep : String := "error watching scheduled backups"

/-- The steps after the sinks were built, in order; the first failure decides. -/
def clusterOf (settings : AgentSettings) (around : Surroundings) :
    Except (String × TaskError) String :=
  match around.clientFailure with
  | some failure => .error (clientStep, .api failure)
  | none =>
    match Api.versionResult around.version with
    | .error failure => .error (versionStep, .api failure)
    | .ok _ =>
      match Api.clusterResult settings.podName settings.space around.pod with
      | .error e => .error (clusterStep, e)
      | .ok cluster => .ok cluster

/-- The sinks that an agent builds. -/
def choicesOf (settings : AgentSettings) (around : Surroundings) :
    Except SinkError (List SinkChoice) :=
  SinkChoice.select settings.outputModules settings.icinga around.httpFailure

/-- How far an agent gets before it watches. -/
def startup (settings : AgentSettings) (around : Surroundings) : Startup :=
  match choicesOf settings around with
  | .error e => .noSinks e
  | .ok choices =>
    match clusterOf settings around with
    | .error (step, e) => .failed choices step e
    | .ok cluster => .watching choices cluster

/-- The variables of the environment that an agent looks at. -/
def envNames : List String :=
  CliOption.all.map (·.envName) ++ [TelemetrySettings.endpointVariable, Log.Filter.envVariable]

/-- What an agent tells about itself. -/
def telemetry (settings : AgentSettings) (env : String → Option String) : TelemetrySettings :=
  { TelemetrySettings.ofEnv env with serviceName := "warden-agent", debug := settings.debug }

/-- The filter of the log of an agent: the one that the environment gives, or the usual one. -/
def logFilter (settings : AgentSettings) (env : String → Option String) : Log.Filter :=
  .ofText (env Log.Filter.envVariable) (telemetry settings env).directives

/-- The line with which an agent starts. -/
def greeting (settings : AgentSettings) : Log.Line :=
  ⟨.agent, .info, "starting CNPG backup agent",
    [("pod", settings.podName), ("namespace", settings.space)]⟩

/-- The line about the sinks that were built. -/
def sinksLine (choices : List SinkChoice) : Log.Line :=
  if choices.isEmpty then
    ⟨.agent, .warn, "no output module configured, outcomes are only logged", []⟩
  else
    ⟨.agent, .info, "output modules initialized",
      [("modules", Text.quoteList (choices.map (·.name)))]⟩

/-- The line about a signal to shut down. -/
def shutdownLine : Log.Line :=
  ⟨.agent, .info, "shutdown signal received, waiting for all watchers to stop", []⟩

/-- What is logged before the schedules are watched or the agent exits. -/
def startupLog (settings : AgentSettings) : Startup → List Log.Line
  | .noSinks _ => [greeting settings]
  | .failed choices _ _ => [greeting settings, sinksLine choices]
  | .watching choices _ => [greeting settings, sinksLine choices]

/-- The text with which an agent exits when a step fails. -/
def failureText (step : String) (error : TaskError) : String :=
  step ++ ": " ++ error.message

/-- What the sinks log about deliveries, each in its turn. -/
def deliveryLog (sinks : List Sink) (ds : List Delivery) : List Log.Line :=
  (sinks.zip ds).flatMap fun (sink, d) => sink.ownLog d ++ d.log

/-- The exit of an agent of which a step failed: every sink is told. -/
def fail (sinks : List Sink) (earlier : List Delivery) (step : String) (error : TaskError) :
    AgentExit :=
  let deliveries := fanOut sinks earlier (.unknown (failureText step error))
  { error := some (failureText step error)
    deliveries
    log := ⟨.agent, .error, step, [("error", error.message)]⟩ :: deliveryLog sinks deliveries }

/-- The exit of an agent whose sinks cannot be built: nobody is told. -/
def failWithoutSinks (error : SinkError) : AgentExit where
  error := some ("unable to initialize the output modules: " ++ error.message)
  log := [⟨.agent, .error, "unable to initialize the output modules", [("error", error.message)]⟩]

/-- The exit of an agent that was shut down. -/
def succeed : AgentExit where
  error := none
  log := [⟨.agent, .info, "all watchers stopped, shutting down the CNPG backup agent", []⟩]

/-- The sinks of an agent. -/
def sinks (around : Surroundings) (choices : List SinkChoice) : List Sink :=
  choices.map (·.sink around.network)

/-- What stays the same while the schedules are watched. -/
def setup (settings : AgentSettings) (around : Surroundings) (choices : List SinkChoice) :
    Setup where
  space := settings.space
  sinks := sinks around choices

/-- The exit of an agent that has watched schedules, once the watcher has finished. -/
def exitOf? (sinks : List Sink) (s : System) : Option AgentExit :=
  match s.result? with
  | none => none
  | some none => some succeed
  | some (some e) => some (fail sinks s.trace.deliveries watchStep e)

/-- Takes in one batch of input after the other, and lets the tasks come to rest after each. -/
def watch (setup : Setup) (cluster : String) (batches : List (List Input)) : System :=
  batches.foldl (fun s batch => s.advance setup batch)
    (({} : System).advance setup [.start (.watcher cluster)])

/-- What is logged about a batch of input: that the agent is to shut down. -/
def shutdownLog (batches : List (List Input)) : List Log.Line :=
  if batches.any (·.any fun input => match input with | .cancel => true | _ => false) then
    [shutdownLine]
  else []

/-- A run of the agent. -/
structure Result where
  /-- Everything that was logged. -/
  log : List Log.Line
  /-- Everything that was handed to the sinks, oldest first. -/
  deliveries : List Delivery
  /-- How the agent ended; `none` if it is still watching. -/
  exit : Option AgentExit

/-- Runs the agent: it starts up, and if it gets to watch, takes in batches of input. -/
def run (settings : AgentSettings) (around : Surroundings) (batches : List (List Input)) :
    Result :=
  let begun := startup settings around
  let log := startupLog settings begun
  match begun with
  | .noSinks e =>
    let exit := failWithoutSinks e
    { log := log ++ exit.log, deliveries := [], exit := some exit }
  | .failed choices step e =>
    let exit := fail (sinks around choices) [] step e
    { log := log ++ exit.log, deliveries := exit.deliveries, exit := some exit }
  | .watching choices cluster =>
    let setup := setup settings around choices
    let s := watch setup cluster batches
    let exit := exitOf? setup.sinks s
    { log := log ++ s.trace.log ++ shutdownLog batches ++ (exit.map (·.log)).getD []
      deliveries := s.trace.deliveries ++ (exit.map (·.deliveries)).getD []
      exit }

end Agent

end BackupMonitor
