import BackupMonitor.Agent.Settings
/-!
# Command line and environment

Every option can be given as an argument or by a variable of the environment; an argument counts
and the variable is then not even looked at.

* A value follows its option as the next argument or after an equals sign.
* An argument that begins with a hyphen is never the value of the option before it.
* The list of sinks is separated by commas and may be given several times; every other option may
  be given once.
* A truth value is `true` or `false`; the debug option takes no value on the command line.

Arguments are read in order, and the first fault decides. The value of an option that was given as
the next argument is looked at only once the following argument turns out to be an option, or at
the end; so an unknown argument after it is reported first. Variables are looked at after the
arguments, and options that are required last.
-/

namespace BackupMonitor

/-- An option of the command line. -/
inductive CliOption where
  /-- The name of the pod. -/
  | podName
  /-- The namespace. -/
  | space
  /-- Whether more is logged. -/
  | debug
  /-- The names of the sinks. -/
  | outputModule
  /-- The address of the Icinga API. -/
  | icingaApiUrl
  /-- The user of the Icinga API. -/
  | icingaUser
  /-- The password of that user. -/
  | icingaPass
  /-- The Icinga host. -/
  | icingaHost
  /-- The Icinga service. -/
  | icingaService
  /-- Whether any certificate is accepted. -/
  | icingaInsecure
deriving DecidableEq, Repr

namespace CliOption

/-- All options, in the order in which their variables are looked at. -/
def all : List CliOption :=
  [podName, space, debug, outputModule, icingaApiUrl, icingaUser, icingaPass, icingaHost,
    icingaService, icingaInsecure]

/-- The option as it is written, without its two hyphens. -/
def word : CliOption → String
  | podName => "pod-name"
  | space => "namespace"
  | debug => "debug"
  | outputModule => "output-module"
  | icingaApiUrl => "icinga-api-url"
  | icingaUser => "icinga-user"
  | icingaPass => "icinga-pass"
  | icingaHost => "icinga-host"
  | icingaService => "icinga-service"
  | icingaInsecure => "icinga-insecure"

/-- The variable of the environment that gives the option. -/
def envName : CliOption → String
  | podName => "MY_POD_NAME"
  | space => "MY_NAMESPACE"
  | debug => "DEBUG"
  | outputModule => "BC_OUTPUT_MODULE"
  | icingaApiUrl => Icinga.apiUrlVariable
  | icingaUser => Icinga.usernameVariable
  | icingaPass => Icinga.passwordVariable
  | icingaHost => Icinga.hostVariable
  | icingaService => Icinga.serviceVariable
  | icingaInsecure => "BC_OUTPUT_ICINGA_INSECURE"

/-- The option of that word. -/
def ofWord? (word : String) : Option CliOption :=
  all.find? (·.word = word)

/-- Whether the value of the option is a truth value. -/
def isSwitch : CliOption → Bool
  | debug => true
  | icingaInsecure => true
  | _ => false

end CliOption

/-- Why no settings come of a command line. -/
inductive CliStop where
  /-- Help is asked for. -/
  | help
  /-- The version is asked for. -/
  | version
  /-- A value is missing or unusable. -/
  | invalidValue
  /-- An argument is not known. -/
  | unknownArgument
  /-- An option that is required is missing. -/
  | missingRequired
  /-- An option is given twice. -/
  | conflict
  /-- An option that takes no value is given one. -/
  | tooManyValues
deriving DecidableEq, Repr

/-- The exit code that goes with it. -/
def CliStop.exitCode : CliStop → Nat
  | help => 0
  | version => 0
  | _ => 2

namespace CommandLine

/-- The values that were given for each option; `none` for an option that was not given. -/
abbrev Given := CliOption → Option (List String)

/-- Nothing given. -/
def Given.empty : Given := fun _ => none

/-- Sets the values of one option. -/
def Given.set (given : Given) (option : CliOption) (values : List String) : Given :=
  fun other => if other = option then some values else given other

/-- The parts of a list that is separated by commas. -/
def splitCommas (s : String) : List String :=
  (s.toList.splitOn ',').map String.ofList

/-- A truth value. -/
def truth? (s : String) : Option Bool :=
  if s = "true" then some true else if s = "false" then some false else none

/-- Whether a value is usable for an option. -/
def isUsable (option : CliOption) (value : String) : Bool :=
  !option.isSwitch || (truth? value).isSome

/-- The values that one text gives for an option. -/
def valuesOf (option : CliOption) (value : String) : List String :=
  if option = .outputModule then splitCommas value else [value]

/-- Takes in the value of an option. -/
def give (given : Given) (option : CliOption) (value : String) : Except CliStop Given :=
  match given option with
  | none =>
    if isUsable option value then .ok (given.set option (valuesOf option value))
    else .error .invalidValue
  | some values =>
    if option = .outputModule then .ok (given.set option (values ++ valuesOf option value))
    else .error .conflict

/-- What an argument is. -/
inductive Argument where
  /-- Two hyphens: no option follows. -/
  | escape
  /-- An option that takes a value, with the value if one is attached. -/
  | option (option : CliOption) (value : Option String)
  /-- The debug option. -/
  | debug
  /-- The request for help. -/
  | help
  /-- The request for the version. -/
  | version
  /-- An option that takes no value, with a value attached. -/
  | overfull
  /-- Something that looks like an option. -/
  | unknown
  /-- Anything else. -/
  | plain
deriving DecidableEq, Repr

/-- What an argument with two hyphens is, given what follows them. -/
def classifyLong (cs : List Char) : Argument :=
  let word := String.ofList (cs.takeWhile (· != '='))
  let value :=
    match cs.dropWhile (· != '=') with
    | [] => none
    | _ :: value => some (String.ofList value)
  match CliOption.ofWord? word with
  | some .debug => if value.isSome then .overfull else .debug
  | some option => .option option value
  | none =>
    if word = "help" then (if value.isSome then .overfull else .help)
    else if word = "version" then (if value.isSome then .overfull else .version)
    else .unknown

/-- What an argument is. -/
def classify (arg : String) : Argument :=
  match arg.toList with
  | ['-', '-'] => .escape
  | '-' :: '-' :: rest => classifyLong rest
  | '-' :: 'h' :: _ => .help
  | '-' :: 'V' :: _ => .version
  | '-' :: _ :: _ => .unknown
  | _ => .plain

/-- What the last argument has left open. -/
inductive Pending where
  /-- Nothing. -/
  | nothing
  /-- An option waits for its value. -/
  | awaiting (option : CliOption)
  /-- An option has its value, which has not been looked at. -/
  | complete (option : CliOption) (value : String)
deriving DecidableEq, Repr

/-- Closes what the last argument has left open. -/
def resolve (given : Given) : Pending → Except CliStop Given
  | .nothing => .ok given
  | .awaiting _ => .error .invalidValue
  | .complete option value => give given option value

/-- Reads the arguments. -/
def scan (given : Given) (pending : Pending) : List String → Except CliStop Given
  | [] => resolve given pending
  | arg :: rest =>
    match classify arg with
    | .unknown => .error .unknownArgument
    | .overfull => .error .tooManyValues
    | .escape =>
      match rest with
      | [] => resolve given pending
      | _ :: _ => .error .unknownArgument
    | .plain =>
      match pending with
      | .awaiting option => scan given (.complete option arg) rest
      | _ => .error .unknownArgument
    | .help =>
      match resolve given pending with
      | .ok _ => .error .help
      | .error e => .error e
    | .version =>
      match resolve given pending with
      | .ok _ => .error .version
      | .error e => .error e
    | .debug =>
      match resolve given pending with
      | .ok given =>
        match give given .debug "true" with
        | .ok given => scan given .nothing rest
        | .error e => .error e
      | .error e => .error e
    | .option option none =>
      match resolve given pending with
      | .ok given => scan given (.awaiting option) rest
      | .error e => .error e
    | .option option (some value) =>
      match resolve given pending with
      | .ok given =>
        match give given option value with
        | .ok given => scan given .nothing rest
        | .error e => .error e
      | .error e => .error e

/-- Takes the options that were not given from the environment. -/
def fillIn (env : String → Option String) (given : Given) :
    List CliOption → Except CliStop Given
  | [] => .ok given
  | option :: options =>
    match given option, env option.envName with
    | none, some value =>
      match give given option value with
      | .ok given => fillIn env given options
      | .error e => .error e
    | _, _ => fillIn env given options

/-- The text given for an option. -/
def textOf (given : Given) (option : CliOption) : Option String :=
  match given option with
  | some (value :: _) => some value
  | _ => none

/-- The truth value given for an option. -/
def truthOf (given : Given) (option : CliOption) (fallback : Bool) : Bool :=
  ((textOf given option).bind truth?).getD fallback

/-- The settings of the values that were given. -/
def settingsOf (given : Given) : Except CliStop AgentSettings :=
  match textOf given .podName, textOf given .space with
  | some podName, some space =>
    .ok
      { podName
        space
        debug := truthOf given .debug false
        outputModules := (given .outputModule).getD []
        icinga :=
          { apiUrl := textOf given .icingaApiUrl
            username := textOf given .icingaUser
            password := textOf given .icingaPass
            host := textOf given .icingaHost
            service := textOf given .icingaService
            insecure := truthOf given .icingaInsecure true } }
  | _, _ => .error .missingRequired

/-- The settings of a command line and an environment. -/
def parse (args : List String) (env : String → Option String) : Except CliStop AgentSettings :=
  match scan .empty .nothing args with
  | .error e => .error e
  | .ok given =>
    match fillIn env given CliOption.all with
    | .error e => .error e
    | .ok given => settingsOf given

end CommandLine

end BackupMonitor
