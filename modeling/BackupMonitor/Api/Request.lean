import BackupMonitor.Resource.Kind
/-!
# Requests to the API server

A request is a `GET` of a target, which is a path with an optional query after a question mark. The
query of a watch is written as a form: letters, digits and `*-._` stand for themselves, a space
becomes a plus sign, and every other byte becomes a percent sign and two upper-case hexadecimal
digits.

The names of namespaces and pods stand in the path as they are. What follows a number sign is not
sent. A target with a character that may not stand in it, and one that is too long, cannot be sent
at all.
-/

namespace BackupMonitor.Api

/-- Whether a byte stands for itself in a form. -/
def isPlainByte (b : Nat) : Bool :=
  (decide (48 ≤ b) && decide (b ≤ 57)) || (decide (65 ≤ b) && decide (b ≤ 90)) ||
    (decide (97 ≤ b) && decide (b ≤ 122)) || b == 42 || b == 45 || b == 46 || b == 95

/-- An upper-case hexadecimal digit. -/
def upperHex (n : Nat) : Char :=
  (Nat.digitChar n).toUpper

/-- The form of one byte. -/
def formByte (b : Nat) : List Char :=
  if isPlainByte b then [Char.ofNat b]
  else if b = 32 then ['+']
  else ['%', upperHex (b / 16), upperHex (b % 16)]

/-- The form of a text. -/
def formText (s : String) : String :=
  String.ofList (s.toUTF8.toList.flatMap fun b => formByte b.toNat)

/-- Whether a character is no control character and, if it is ASCII, none of those excluded. -/
def isTargetChar (excluded : List Char) (c : Char) : Bool :=
  decide (0x21 ≤ c.toNat) && c.toNat != 0x7f && !excluded.contains c

/-- Whether a character may stand in a path. -/
def isPathChar (c : Char) : Bool :=
  isTargetChar ['#', '<', '>', '?', '`'] c

/-- Whether a character may stand in a query. -/
def isQueryChar (c : Char) : Bool :=
  isTargetChar ['"', '#', '<', '>'] c

/-- How many bytes a target may have. -/
def maxTargetSize : Nat := 65534

/-- Whether a target can be sent. -/
def isSendable (target : List Char) : Bool :=
  (target.takeWhile (· != '?')).all isPathChar &&
    (target.dropWhile (· != '?')).all isQueryChar

/-- The request for a target, if it can be sent. -/
def request? (target : String) : Option String :=
  let sent := target.toList.takeWhile (· != '#')
  if target.utf8ByteSize ≤ maxTargetSize && isSendable sent then
    some ("GET " ++ String.ofList sent)
  else none

/-- The target for the resources of a kind in a namespace. -/
def resourceTarget (kind : ResourceKind) (space : String) : String :=
  "/apis/" ++ kind.apiResource.apiVersion ++ "/namespaces/" ++ space ++ "/" ++
    kind.apiResource.plural ++ "?"

/-- The request for a list. -/
def listRequest? (kind : ResourceKind) (space : String) : Option String :=
  request? (resourceTarget kind space)

/-- For how many seconds a watch is asked to stay open. -/
def watchSeconds : Nat := 290

/-- The request for a watch from a cursor on. -/
def watchRequest? (kind : ResourceKind) (space cursor : String) : Option String :=
  request? (resourceTarget kind space ++ "&watch=true&timeoutSeconds=" ++ toString watchSeconds ++
    "&allowWatchBookmarks=true&resourceVersion=" ++ formText cursor)

/-- The request for the version of the server. -/
def versionRequest : String := "GET /version"

/-- The request for a pod; there is none for a pod without a name. -/
def podRequest? (pod space : String) : Option String :=
  if pod = "" then none else request? ("/api/v1/namespaces/" ++ space ++ "/pods/" ++ pod)

end BackupMonitor.Api
