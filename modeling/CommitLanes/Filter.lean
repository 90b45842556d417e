import CommitLanes.Commit
import CommitLanes.Decimal
import CommitLanes.Text.Quoted

/-! Which commits are shown. -/

set_option autoImplicit false

namespace CommitLanes

/-- What a filter says of a commit. A test from outside may break down instead of
answering, and may say something while it does. -/
inductive Verdict where
  | accept
  | reject
  | crash (said : Option Text)
  deriving DecidableEq, Repr

def Verdict.ofBool (accepted : Bool) : Verdict :=
  if accepted then .accept else .reject

inductive Filter where
  | author (pattern : Text)
  | message (pattern : Text)
  /-- The commit date, both ends included. -/
  | dates (since last : Int64)
  | custom (test : Commit → Verdict)
  | all (filters : List Filter)

namespace Filter

mutual

def judge (commit : Commit) : Filter → Verdict
  | .author pattern =>
      .ofBool (Text.contains pattern commit.author || Text.contains pattern commit.authorEmail)
  | .message pattern =>
      .ofBool (Text.contains pattern commit.subject ||
        (commit.body.map (Text.contains pattern)).getD false)
  | .dates since last => .ofBool (since ≤ commit.commitDate && commit.commitDate ≤ last)
  | .custom test => test commit
  | .all filters => judgeAll commit filters

/-- The first filter that does not accept decides; those behind it are not asked. -/
def judgeAll (commit : Commit) : List Filter → Verdict
  | [] => .accept
  | filter :: rest =>
      match judge commit filter with
      | .accept => judgeAll commit rest
      | verdict => verdict

end

mutual

def inspect : Filter → Text
  | .author pattern => "Author(".toList ++ Quoted.encode pattern ++ [')']
  | .message pattern => "Message(".toList ++ Quoted.encode pattern ++ [')']
  | .dates since last =>
      "DateRange \x7b since: ".toList ++ Decimal.ofInt since.toInt ++ ", until: ".toList ++
        Decimal.ofInt last.toInt ++ " \x7d".toList
  | .custom _ => "Custom(..)".toList
  | .all filters => "All([".toList ++ Text.joined [',', ' '] (inspectAll filters) ++ "])".toList

def inspectAll : List Filter → List Text
  | [] => []
  | filter :: rest => inspect filter :: inspectAll rest

end

/-- All of them must accept; a single one needs no list. -/
def ofList : List Filter → Option Filter
  | [] => none
  | [only] => some only
  | filters => some (.all filters)

end Filter

end CommitLanes
