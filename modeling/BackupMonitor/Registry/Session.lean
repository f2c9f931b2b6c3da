import BackupMonitor.Registry.Basic
/-!
# Sessions with a registry

A session is a sequence of operations on one registry and on a forest of tokens. What is to be done
when a tracker starts is itself a sequence of operations, so operations nest.
-/

namespace BackupMonitor

/-- An operation on a registry and its tokens. -/
inductive RegistryAction where
  /-- Start a tracker unless one is registered; `inside` is done when it starts. -/
  | start (name parent : String) (inside : List RegistryAction)
  /-- Stop the tracker of a name. -/
  | stop (name : String)
  /-- Stop every tracker. -/
  | stopAll
  /-- Ask whether a name is registered. -/
  | contains (name : String)
  /-- Ask for the registered names. -/
  | names
  /-- Cancel a parent by its name. -/
  | cancelParent (name : String)
  /-- Cancel a token that was handed to a tracker, by its place in the order of handing out. -/
  | cancelToken (index : Nat)
  /-- Make a parent, as a child of another one or without a parent. -/
  | newParent (name : String) (parent : Option String)

/-- The answer to an operation. -/
inductive RegistryAnswer where
  /-- Whether a tracker was started, and the answers to what was done then. -/
  | started (value : Bool) (inside : List RegistryAnswer)
  /-- Whether a tracker was stopped. -/
  | stopped (value : Bool)
  /-- How many trackers were stopped. -/
  | count (value : Nat)
  /-- Whether the name is registered. -/
  | contains (value : Bool)
  /-- The registered names. -/
  | names (value : List String)
  /-- Nothing to answer. -/
  | done

/-- The state of a session. -/
structure RegistrySession where
  /-- The tokens. -/
  tokens : Tokens := .single
  /-- The registry. -/
  registry : Registry := ∅
  /-- The parents under their names. -/
  parents : Table Token := .singleton "root" Tokens.root
  /-- The tokens that were handed to trackers, in that order, each with the name of its tracker. -/
  handed : List (String × Token) := []
  /-- What was logged, oldest first. -/
  log : List Log.Line := []

namespace RegistrySession

/-- The parent of that name; the root if there is none. -/
def parentNamed (s : RegistrySession) (name : String) : Token :=
  (s.parents.get? name).getD Tokens.root

/-- Takes over what an operation on the registry left behind. -/
def adopt {α : Type} (s : RegistrySession) (change : RegistryChange α) : RegistrySession :=
  { s with
    registry := change.registry
    tokens := change.tokens
    log := s.log ++ change.log }

mutual

/-- Does one operation. -/
def act (s : RegistrySession) : RegistryAction → RegistrySession × RegistryAnswer
  | .start name parent inside =>
    let change := s.registry.startIfAbsent s.tokens name (s.parentNamed parent)
    match change.answer with
    | none => (s, .started false [])
    | some token =>
      let s := s.adopt change
      let (s, answers) := actAll { s with handed := s.handed ++ [(name, token)] } inside
      (s, .started true answers)
  | .stop name =>
    let change := s.registry.stop s.tokens name
    (s.adopt change, .stopped change.answer)
  | .stopAll =>
    let change := s.registry.stopAll s.tokens
    (s.adopt change, .count change.answer)
  | .contains name => (s, .contains (s.registry.contains name))
  | .names => (s, .names s.registry.names)
  | .cancelParent name => ({ s with tokens := s.tokens.cancel (s.parentNamed name) }, .done)
  | .cancelToken index =>
    match s.handed[index]? with
    | some (_, token) => ({ s with tokens := s.tokens.cancel token }, .done)
    | none => (s, .done)
  | .newParent name parent =>
    let tokens :=
      match parent with
      | some parent => s.tokens.addChild (s.parentNamed parent)
      | none => s.tokens.addRoot
    ({ s with tokens, parents := s.parents.insert name s.tokens.next }, .done)

/-- Does a list of operations in order. -/
def actAll (s : RegistrySession) : List RegistryAction → RegistrySession × List RegistryAnswer
  | [] => (s, [])
  | action :: actions =>
    let (s, answer) := act s action
    let (s, answers) := actAll s actions
    (s, answer :: answers)

end

end RegistrySession

end BackupMonitor
