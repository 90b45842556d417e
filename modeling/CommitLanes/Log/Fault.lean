import CommitLanes.ObjectId

/-! What can be wrong with a log. -/

set_option autoImplicit false

namespace CommitLanes.Log

inductive Field where
  | authorName
  | authorEmail
  | authorDate
  | committerName
  | committerEmail
  | commitDate
  | encoding
  deriving DecidableEq, Repr

namespace Field

def all : List Field :=
  [authorName, authorEmail, authorDate, committerName, committerEmail, commitDate, encoding]

def name : Field → String
  | authorName => "author name"
  | authorEmail => "author email"
  | authorDate => "author date"
  | committerName => "committer name"
  | committerEmail => "committer email"
  | commitDate => "commit date"
  | encoding => "encoding"

end Field

inductive Reason where
  | commitId (fault : ObjectId.Fault)
  | treeId (fault : ObjectId.Fault)
  | parentId (fault : ObjectId.Fault)
  | unterminatedHeader
  | missingField (field : Field)
  | timestamp (field : Field)
  deriving DecidableEq, Repr

def Reason.message : Reason → String
  | .commitId fault => "bad commit id: " ++ fault.message
  | .treeId fault => "bad tree id: " ++ fault.message
  | .parentId fault => "bad parent id: " ++ fault.message
  | .unterminatedHeader => "header line is not terminated"
  | .missingField field => "missing " ++ field.name ++ " field"
  | .timestamp field => field.name ++ " is not a unix timestamp"

inductive Fault where
  | malformed (record : Nat) (reason : Reason)
  | unreadable (cause : String)
  deriving DecidableEq, Repr

def Fault.message : Fault → String
  | .malformed record reason => "malformed record #" ++ toString record ++ ": " ++ reason.message
  | .unreadable cause => "failed to read record stream: " ++ cause

end CommitLanes.Log
