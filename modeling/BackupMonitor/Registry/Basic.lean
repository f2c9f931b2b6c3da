import BackupMonitor.Log
import BackupMonitor.Registry.Token
import BackupMonitor.Table
/-!
# The registry of trackers

The registry holds the token of the tracker of each schedule that has one. A tracker is started
only under a name that is not registered, and its token is cancelled when the name is removed.
-/

namespace BackupMonitor

/-- The registered names, each with the token of its tracker. -/
abbrev Registry := Table Token

/-- What an operation on the registry leaves behind. -/
structure RegistryChange (α : Type) where
  /-- The answer. -/
  answer : α
  /-- The registry afterwards. -/
  registry : Registry
  /-- The tokens afterwards. -/
  tokens : Tokens
  /-- What is logged. -/
  log : List Log.Line := []

namespace Registry

/-- Registers a name with a new child of `parent` unless the name is registered. The answer is the
new token, with which a tracker is to be started. -/
def startIfAbsent (registry : Registry) (tokens : Tokens) (name : String) (parent : Token) :
    RegistryChange (Option Token) :=
  if registry.contains name then { answer := none, registry, tokens }
  else
    { answer := some tokens.next
      registry := registry.insert name tokens.next
      tokens := tokens.addChild parent
      log := [⟨.registry, .info, "starting backup tracker", [("schedule", name)]⟩] }

/-- Removes a name and cancels its token. The answer says whether the name was registered. -/
def stop (registry : Registry) (tokens : Tokens) (name : String) : RegistryChange Bool :=
  match registry.get? name with
  | none => { answer := false, registry, tokens }
  | some token =>
    { answer := true
      registry := registry.erase name
      tokens := tokens.cancel token
      log := [⟨.registry, .info, "stopping backup tracker", [("schedule", name)]⟩] }

/-- Removes every name and cancels the tokens. The answer is how many names there were. -/
def stopAll (registry : Registry) (tokens : Tokens) : RegistryChange Nat where
  answer := registry.size
  registry := ∅
  tokens := tokens.cancelAll (registry.entries.map (·.2))
  log :=
    if registry.isEmpty then []
    else [⟨.registry, .info, "stopped all backup trackers", [("count", .int registry.size)]⟩]

end Registry

end BackupMonitor
