import BackupMonitor.Agent.Run
import BackupMonitor.Proofs.PasswordArguments

/-!
# The password is kept

Two configurations that differ in the password of the Icinga API only, and both give one, lead to
agents that cannot be told apart: what they show of their settings and sinks, what they send but
for the credentials, and, if the API takes either password, everything that they log and hand to
their sinks. `Agent.password_kept` says so, from the command line on.
-/

namespace BackupMonitor

/-! ## Settings -/

/-- The same settings with another password. -/
def IcingaSettings.withPassword (settings : IcingaSettings) (password : Option String) :
    IcingaSettings :=
  { settings with password }

/-- The same service with another password. -/
def Icinga.withPassword (i : Icinga) (password : String) : Icinga :=
  { i with password }

namespace IcingaSettings

/-- What is shown of settings tells at most whether there is a password. -/
lemma details_withPassword (settings : IcingaSettings) {password : Option String}
    (h : password.isSome = settings.password.isSome) :
    (settings.withPassword password).details = settings.details := by
  have hshown : password.map (fun _ => redacted) = settings.password.map fun _ => redacted := by
    cases password <;> cases hold : settings.password <;> simp_all
  unfold details
  simp only [withPassword]
  rw [hshown]

end IcingaSettings

lemma AgentSettings.details_withPassword (settings : AgentSettings) {password : Option String}
    (h : password.isSome = settings.icinga.password.isSome) :
    (settings.withPassword password).details = settings.details := by
  have hshown : (settings.withPassword password).icinga.details = settings.icinga.details :=
    settings.icinga.details_withPassword h
  unfold details
  rw [hshown]
  rfl

namespace Icinga

variable {settings : IcingaSettings} {password password' : String}

lemma required_of_not_blank (h : Text.trim password ≠ "") (name : String) :
    required (some password) name = .ok (Text.trim password) := by
  simp [required, h]

/-- Settings are accepted or refused alike with any password that is not blank. -/
lemma ofSettings?_withPassword (hpassword : settings.password = some password)
    (hblank : Text.trim password ≠ "") (hblank' : Text.trim password' ≠ "")
    (httpFailure : Option String) :
    ofSettings? (settings.withPassword (some password')) httpFailure =
      (ofSettings? settings httpFailure).map (·.withPassword (Text.trim password')) := by
  simp only [ofSettings?, IcingaSettings.withPassword, hpassword, required_of_not_blank hblank,
    required_of_not_blank hblank']
  cases required settings.apiUrl apiUrlVariable with
  | error e => rfl
  | ok apiUrl =>
    cases required settings.username usernameVariable with
    | error e => rfl
    | ok username =>
      cases required settings.service serviceVariable with
      | error e => rfl
      | ok service =>
        cases required settings.host hostVariable with
        | error e => rfl
        | ok host => cases httpFailure <;> rfl

/-- Only the credentials of a request depend on the password. -/
lemma request_withPassword (i : Icinga) (password : String) (report : Report) :
    (i.withPassword password).request report = { i.request report with password } := rfl

end Icinga

/-! ## Selected sinks -/

/-- Two networks of which the one answers to the second password as the other one does to the
first. -/
def AnswerAlike (password password' : String) (network network' : SubmitRequest → SubmitAnswer) :
    Prop :=
  ∀ request : SubmitRequest,
    network' { request with password := password' } = network { request with password }

namespace SinkChoice

variable {settings : IcingaSettings} {password password' : String}

/-- The same choice with another password. -/
def withPassword (password : String) : SinkChoice → SinkChoice
  | icinga service => icinga (service.withPassword password)
  | void => void

@[simp] lemma name_withPassword (password : String) (choice : SinkChoice) :
    (choice.withPassword password).name = choice.name := by
  cases choice <;> rfl

lemma ofName?_withPassword (hpassword : settings.password = some password)
    (hblank : Text.trim password ≠ "") (hblank' : Text.trim password' ≠ "") (name : String)
    (httpFailure : Option String) :
    ofName? (settings.withPassword (some password')) name httpFailure =
      (ofName? settings name httpFailure).map (withPassword (Text.trim password')) := by
  unfold ofName?
  split
  · rw [Icinga.ofSettings?_withPassword hpassword hblank hblank']
    cases Icinga.ofSettings? settings httpFailure <;> rfl
  · split <;> rfl

/-- The same sinks are selected with any password that is not blank, or the same error occurs. -/
lemma select_withPassword (hpassword : settings.password = some password)
    (hblank : Text.trim password ≠ "") (hblank' : Text.trim password' ≠ "") (names : List String)
    (httpFailure : Option String) :
    select names (settings.withPassword (some password')) httpFailure =
      (select names settings httpFailure).map
        (List.map (withPassword (Text.trim password'))) := by
  unfold select
  induction (names.map Text.trim).filter (· ≠ "") with
  | nil => rfl
  | cons name names ih =>
    rw [List.mapM_cons, List.mapM_cons, ih, ofName?_withPassword hpassword hblank hblank']
    cases ofName? settings name httpFailure with
    | error e => rfl
    | ok choice => cases names.mapM (ofName? settings · httpFailure) <;> rfl

/-- The password of a selected sink is the one of the settings, without the blanks around it. -/
lemma withPassword_of_select (hpassword : settings.password = some password)
    (hblank : Text.trim password ≠ "") {names : List String} {httpFailure : Option String}
    {choices : List SinkChoice} (h : select names settings httpFailure = .ok choices) :
    choices.map (withPassword (Text.trim password)) = choices := by
  have hsame : settings.withPassword (some password) = settings := by
    rw [← hpassword]
    rfl
  have hchoices := select_withPassword hpassword hblank hblank names httpFailure
  rw [hsame, h] at hchoices
  exact (Except.ok.inj hchoices).symm

/-- A sink is the same with either password over networks that answer to them alike. -/
lemma sink_withPassword {network network' : SubmitRequest → SubmitAnswer}
    (h : AnswerAlike password password' network network') (choice : SinkChoice) :
    (choice.withPassword password').sink network' =
      (choice.withPassword password).sink network := by
  cases choice with
  | void => rfl
  | icinga service =>
    have hrespond (report : Report) : network' ((service.withPassword password').request report) =
        network ((service.withPassword password).request report) :=
      h (service.request report)
    simp only [withPassword, sink, Icinga.sink, hrespond]
    rfl

lemma sinks_withPassword {network network' : SubmitRequest → SubmitAnswer}
    (h : AnswerAlike password password' network network') {choices : List SinkChoice}
    (hchoices : choices.map (withPassword password) = choices) :
    (choices.map (withPassword password')).map (·.sink network') =
      choices.map (·.sink network) := by
  calc (choices.map (withPassword password')).map (·.sink network')
      = choices.map fun choice => (choice.withPassword password').sink network' := by
        rw [List.map_map]
        rfl
    _ = choices.map fun choice => (choice.withPassword password).sink network := by
        simp only [sink_withPassword h]
    _ = (choices.map (withPassword password)).map (·.sink network) := by
        rw [List.map_map]
        rfl
    _ = choices.map (·.sink network) := by rw [hchoices]

end SinkChoice

/-! ## Runs of the agent -/

namespace Agent

variable {settings : AgentSettings} {password password' : String}

/-- The log filter and the telemetry of an agent do not depend on the password. -/
lemma logFilter_withPassword (settings : AgentSettings) {env env' : String → Option String}
    (henv : CommandLine.AgreeButPassword env env') (password : Option String) :
    telemetry (settings.withPassword password) env' = telemetry settings env ∧
      logFilter (settings.withPassword password) env' = logFilter settings env := by
  have htelemetry : telemetry (settings.withPassword password) env' = telemetry settings env := by
    simp only [telemetry, TelemetrySettings.ofEnv,
      henv TelemetrySettings.endpointVariable (by decide)]
    rfl
  refine ⟨htelemetry, ?_⟩
  rw [logFilter, logFilter, htelemetry, henv Log.Filter.envVariable (by decide)]

@[simp] lemma sinksLine_withPassword (password : String) (choices : List SinkChoice) :
    sinksLine (choices.map (SinkChoice.withPassword password)) = sinksLine choices := by
  simp [sinksLine, Function.comp_def]

/-- An agent runs alike with either password if its network answers to them alike. -/
lemma run_withPassword (hpassword : settings.icinga.password = some password)
    (hblank : Text.trim password ≠ "") (hblank' : Text.trim password' ≠ "")
    (around : Surroundings) {network' : SubmitRequest → SubmitAnswer}
    (h : AnswerAlike (Text.trim password) (Text.trim password') around.network network')
    (batches : List (List Input)) :
    run (settings.withPassword (some password')) { around with network := network' } batches =
      run settings around batches := by
  have hselect : choicesOf (settings.withPassword (some password'))
      { around with network := network' } = (choicesOf settings around).map
        (List.map (SinkChoice.withPassword (Text.trim password'))) :=
    SinkChoice.select_withPassword hpassword hblank hblank' _ _
  have hcluster : clusterOf (settings.withPassword (some password'))
      { around with network := network' } = clusterOf settings around := rfl
  unfold run
  simp only [startup, hselect, hcluster]
  cases hchoices : choicesOf settings around with
  | error e => rfl
  | ok choices =>
    have hsinks : sinks { around with network := network' }
        (choices.map (SinkChoice.withPassword (Text.trim password'))) = sinks around choices :=
      SinkChoice.sinks_withPassword h
        (SinkChoice.withPassword_of_select hpassword hblank hchoices)
    have hsetup : setup (settings.withPassword (some password')) { around with network := network' }
        (choices.map (SinkChoice.withPassword (Text.trim password'))) =
          setup settings around choices := by
      rw [setup, hsinks]
      rfl
    cases clusterOf settings around with
    | error failure =>
      simp only [Except.map, startupLog, sinksLine_withPassword, hsinks]
      rfl
    | ok cluster =>
      simp only [Except.map, startupLog, sinksLine_withPassword, hsetup]
      rfl

/-- Two configurations that can be read, differ in the password only and both give one that is not
blank cannot be told apart by what is shown of the settings, by the sinks that are selected or the
error of the selection, by what is shown of an Icinga sink, where it reports to and what it
reports, by the telemetry and by the filter of the log. The settings and the selected sinks differ
in the password only, and so do the requests. If the network answers to the two passwords alike,
every run of the agent is the same. -/
theorem password_kept {args args' : List String} {env env' : String → Option String}
    {settings settings' : AgentSettings} {password password' : String}
    (hargs : CommandLine.withoutPassword args = CommandLine.withoutPassword args')
    (henv : CommandLine.AgreeButPassword env env')
    (hsettings : CommandLine.parse args env = .ok settings)
    (hsettings' : CommandLine.parse args' env' = .ok settings')
    (hpassword : settings.icinga.password = some password) (hblank : Text.trim password ≠ "")
    (hpassword' : settings'.icinga.password = some password')
    (hblank' : Text.trim password' ≠ "") :
    settings' = settings.withPassword (some password') ∧
    settings'.details = settings.details ∧
    settings'.icinga.details = settings.icinga.details ∧
    (SinkChoice.select settings'.outputModules settings'.icinga).map (List.map SinkChoice.name) =
      (SinkChoice.select settings.outputModules settings.icinga).map (List.map SinkChoice.name) ∧
    (∀ choices, SinkChoice.select settings.outputModules settings.icinga = .ok choices →
      SinkChoice.select settings'.outputModules settings'.icinga =
        .ok (choices.map (SinkChoice.withPassword (Text.trim password'))) ∧
      ∀ service, .icinga service ∈ choices →
        (service.withPassword (Text.trim password')).details = service.details ∧
        (service.withPassword (Text.trim password')).endpoint = service.endpoint ∧
        (∀ state output metrics,
          (service.withPassword (Text.trim password')).checkResult state output metrics =
            service.checkResult state output metrics) ∧
        ∀ report, (service.withPassword (Text.trim password')).request report =
          { service.request report with password := Text.trim password' }) ∧
    telemetry settings' env' = telemetry settings env ∧
    logFilter settings' env' = logFilter settings env ∧
    ∀ around network', AnswerAlike (Text.trim password) (Text.trim password')
        around.network network' → ∀ batches,
      run settings' { around with network := network' } batches = run settings around batches := by
  have hsame : settings' = settings.withPassword (some password') :=
    hpassword' ▸ CommandLine.parse_agrees hargs henv hsettings hsettings'
  have hgiven : (some password').isSome = settings.icinga.password.isSome := by rw [hpassword]; rfl
  have hselect :=
    SinkChoice.select_withPassword hpassword hblank hblank' settings.outputModules none
  obtain ⟨htelemetry, hfilter⟩ := logFilter_withPassword settings henv (some password')
  rw [hsame]
  refine ⟨rfl, settings.details_withPassword hgiven, settings.icinga.details_withPassword hgiven,
    ?_, ?_, htelemetry, hfilter, ?_⟩
  · have hnames (choices : List SinkChoice) : (choices.map (SinkChoice.withPassword
        (Text.trim password'))).map SinkChoice.name = choices.map SinkChoice.name := by
      simp [Function.comp_def]
    refine (congrArg (Except.map (List.map SinkChoice.name)) hselect).trans ?_
    cases SinkChoice.select settings.outputModules settings.icinga with
    | error e => rfl
    | ok choices => exact congrArg Except.ok (hnames choices)
  · intro choices hchoices
    rw [hchoices] at hselect
    exact ⟨hselect, fun service _ =>
      ⟨rfl, rfl, fun _ _ _ => rfl, service.request_withPassword (Text.trim password')⟩⟩
  · intro around network' hnetwork batches
    exact run_withPassword hpassword hblank hblank' around hnetwork batches

end Agent

namespace Sample

/-- The arguments of an agent, without the password. -/
def arguments : List String :=
  ["--pod-name", "pg-main-1", "--namespace=databases", "--output-module", "icinga,void"]

/-- An environment that gives all settings of Icinga but the password. -/
def environment (name : String) : Option String :=
  if name = Icinga.apiUrlVariable then some "https://icinga:5665/"
  else if name = Icinga.usernameVariable then some "warden"
  else if name = Icinga.hostVariable then some "db-host"
  else if name = Icinga.serviceVariable then some "pg-backup"
  else none

end Sample

/-- A password that follows its option and another one that is attached to it lead to the same
texts and the same sinks. -/
theorem Agent.password_kept_twoForms :
    ∃ settings settings' : AgentSettings,
      CommandLine.parse ("--icinga-pass" :: "s3cret" :: Sample.arguments) Sample.environment =
        .ok settings ∧
      CommandLine.parse (Sample.arguments ++ ["--icinga-pass=hunter2"]) Sample.environment =
        .ok settings' ∧
      settings ≠ settings' ∧
      settings'.details = settings.details ∧
      (SinkChoice.select settings'.outputModules settings'.icinga).map (List.map SinkChoice.name) =
        .ok ["icinga", "void"] := by
  obtain ⟨settings, hsettings⟩ : ∃ settings, CommandLine.parse
      ("--icinga-pass" :: "s3cret" :: Sample.arguments) Sample.environment = .ok settings :=
    ⟨_, rfl⟩
  obtain ⟨settings', hsettings'⟩ : ∃ settings, CommandLine.parse
      (Sample.arguments ++ ["--icinga-pass=hunter2"]) Sample.environment = .ok settings :=
    ⟨_, rfl⟩
  have hpassword : settings.icinga.password = some "s3cret" := by
    obtain rfl := Except.ok.inj (hsettings.symm.trans rfl)
    rfl
  have hpassword' : settings'.icinga.password = some "hunter2" := by
    obtain rfl := Except.ok.inj (hsettings'.symm.trans rfl)
    rfl
  obtain ⟨-, hdetails, -, hnames, -⟩ := Agent.password_kept (by decide) (fun _ _ => rfl) hsettings
    hsettings' hpassword (by decide) hpassword' (by decide)
  refine ⟨settings, settings', hsettings, hsettings', ?_, hdetails, ?_⟩
  · rintro rfl
    exact absurd (hpassword.symm.trans hpassword') (by decide)
  · rw [hnames]
    obtain rfl := Except.ok.inj (hsettings.symm.trans rfl)
    rfl

end BackupMonitor
