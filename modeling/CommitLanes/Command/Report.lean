import CommitLanes.Decimal

/-! The report of a command that failed: what failed, and what it was caused by, the
nearest cause first. -/

set_option autoImplicit false

namespace CommitLanes.Command

structure Report where
  message : String
  causes : List String
  deriving DecidableEq, Repr

namespace Report

/-- A cause behind a mark. Further lines of it begin below the first one's text. -/
def marked (mark cause : Text) : Text :=
  '\n' :: mark ++ cause.flatMap fun c =>
    if c = '\n' then '\n' :: List.replicate mark.length ' ' else [c]

def numberMark (n : Nat) : Text :=
  let digits := Decimal.ofNat n
  List.replicate (5 - digits.length) ' ' ++ digits ++ [':', ' ']

def numbered (n : Nat) : List String → Text
  | [] => []
  | cause :: rest => marked (numberMark n) cause.toList ++ numbered (n + 1) rest

/-- A single cause has no number. -/
def causesText : List String → Text
  | [] => []
  | [only] => marked (List.replicate 4 ' ') only.toList
  | causes => numbered 0 causes

def text (report : Report) : Text :=
  let heading := if report.causes.isEmpty then [] else "\n\nCaused by:".toList
  "Error: ".toList ++ report.message.toList ++ heading ++ causesText report.causes ++ ['\n']

end Report

end CommitLanes.Command
