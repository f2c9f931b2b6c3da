import BackupMonitor.Text.LowerCase
/-!
# Kinds of resources

The API server serves each kind of resource under an API version, written `group/version` or just
`version` for the core group, and under the plural of its name in lower case.
-/

namespace BackupMonitor

/-- An API version, split at its first slash. -/
structure ApiVersion where
  /-- The group, empty for the core group. -/
  group : String
  /-- The version within the group. -/
  version : String
deriving DecidableEq, Repr

/-- Splits `group/version`; a text without a slash is a version of the core group. -/
def ApiVersion.parse (text : String) : ApiVersion :=
  let cs := text.toList
  match cs.dropWhile (· != '/') with
  | [] => ⟨"", text⟩
  | _ :: version => ⟨String.ofList (cs.takeWhile (· != '/')), String.ofList version⟩

/-- Whether `ending` ends the list. -/
def endsWith (cs : List Char) (ending : String) : Bool :=
  ending.toList.isSuffixOf cs

/-- The plural of a kind in lower case: `es` after `s`, `ch` and `sh`; `ies` for a `y` that stands
after neither `a` nor `e`; `s` otherwise. -/
def pluralOfKind (kind : String) : String :=
  let name := Text.lowerFrom [] kind.toList
  if endsWith name "s" || endsWith name "ch" || endsWith name "sh" then
    String.ofList name ++ "es"
  else if endsWith name "y" && !endsWith name "ay" && !endsWith name "ey" then
    String.ofList name.dropLast ++ "ies"
  else String.ofList name ++ "s"

/-- What identifies a kind of resource to the API server. -/
structure ApiResource where
  /-- The API version in its parts. -/
  version : ApiVersion
  /-- The API version as it is written. -/
  apiVersion : String
  /-- The kind. -/
  kind : String
  /-- The plural of the kind, as it stands in paths. -/
  plural : String
deriving DecidableEq, Repr

/-- The resource of a kind under an API version. -/
def ApiResource.ofKind (apiVersion kind : String) : ApiResource where
  version := .parse apiVersion
  apiVersion := apiVersion
  kind := kind
  plural := pluralOfKind kind

/-- The kinds of resources that are listed and watched. -/
inductive ResourceKind where
  /-- One object per recurring backup. -/
  | scheduledBackup
  /-- One object per execution of a backup. -/
  | backup
deriving DecidableEq, Repr

namespace ResourceKind

/-- The name of the kind. -/
def name : ResourceKind → String
  | scheduledBackup => "ScheduledBackup"
  | backup => "Backup"

/-- The API version under which both kinds are served. -/
def apiVersion : String := "postgresql.cnpg.io/v1"

/-- What identifies the kind to the API server. -/
def apiResource (kind : ResourceKind) : ApiResource :=
  .ofKind apiVersion kind.name

/-- The plural of the kind, as it stands in errors and metrics. -/
def plural : ResourceKind → String
  | scheduledBackup => "scheduledbackups"
  | backup => "backups"

end ResourceKind

end BackupMonitor
