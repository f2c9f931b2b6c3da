import BackupMonitor.Icinga.Settings
/-!
# Settings of the agent
-/

namespace BackupMonitor

/-- The settings of an agent. -/
structure AgentSettings where
  /-- The pod that the agent runs in. -/
  podName : String
  /-- The namespace of the pod, its cluster and the backups. -/
  space : String
  /-- Whether more is logged. -/
  debug : Bool := false
  /-- The names of the sinks. -/
  outputModules : List String := []
  /-- The settings of the Icinga sink. -/
  icinga : IcingaSettings := { insecure := true }
deriving DecidableEq, Repr

/-- The settings with all their fields, the password hidden. -/
def AgentSettings.details (s : AgentSettings) : String :=
  "AgentConfig \x7b pod_name: " ++ Text.quote s.podName ++ ", namespace: " ++ Text.quote s.space ++
    ", debug: " ++ toString s.debug ++ ", output_modules: " ++ Text.quoteList s.outputModules ++
    ", icinga: " ++ s.icinga.details ++ " \x7d"

end BackupMonitor
