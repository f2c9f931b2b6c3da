/-!
# Cancellation tokens

Tokens form a forest. A token is cancelled if it or one of its ancestors was cancelled, whether
that happened before the token was made or after.
-/

namespace BackupMonitor

/-- A token, by its place in the order in which tokens were made. -/
abbrev Token := Nat

/-- Every token that was made, and which of them were cancelled directly. -/
structure Tokens where
  /-- For each token, the token itself and its ancestors. -/
  lineages : List (List Token) := []
  /-- The tokens that were cancelled directly. -/
  fired : List Token := []
deriving DecidableEq, Repr

namespace Tokens

/-- The token itself and its ancestors. -/
def lineage (ts : Tokens) (t : Token) : List Token :=
  ts.lineages.getD t []

/-- Whether the token or one of its ancestors was cancelled. -/
def isCancelled (ts : Tokens) (t : Token) : Bool :=
  (ts.lineage t).any (ts.fired.contains ·)

/-- The token that is made next. -/
def next (ts : Tokens) : Token :=
  ts.lineages.length

/-- Makes a token without a parent; it is `ts.next`. -/
def addRoot (ts : Tokens) : Tokens :=
  { ts with lineages := ts.lineages ++ [[ts.next]] }

/-- Makes a child of a token; it is `ts.next`. -/
def addChild (ts : Tokens) (parent : Token) : Tokens :=
  { ts with lineages := ts.lineages ++ [ts.next :: ts.lineage parent] }

/-- Cancels a token. -/
def cancel (ts : Tokens) (t : Token) : Tokens :=
  { ts with fired := t :: ts.fired }

/-- Cancels every token of a list. -/
def cancelAll (ts : Tokens) (tokens : List Token) : Tokens :=
  tokens.foldl cancel ts

/-- The forest with one root, which is token 0. -/
def single : Tokens :=
  addRoot {}

/-- The root of `single`. -/
def root : Token := 0

end Tokens

end BackupMonitor
