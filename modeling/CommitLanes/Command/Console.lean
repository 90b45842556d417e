import CommitLanes.Command
import CommitLanes.Pass.Session

/-! A layout between two parties.

The worker of a pass lays out while the console prints what it has received. The console asks
for an end when a row comes that is one too many. By then the worker may be as far ahead as the
channel lets it, and it may take any time until it finds that it was asked.
-/

set_option autoImplicit false

namespace CommitLanes.Command

structure Console where
  session : Pass.Session
  output : Text
  printed : Nat
  /-- Whether the pass was asked to stop. The worker finds out when the session is called off. -/
  requested : Bool
  response : Option Response

namespace Console

def start (job : Job) : Console :=
  ⟨.start job.plan job.material.source, [], 0, false, none⟩

def print (job : Job) (row : Layout.Row) (console : Console) : Console :=
  if job.limit.any (· ≤ console.printed) then { console with requested := true }
  else { console with
    output := console.output ++ (job.printer.format row ++ ['\n'])
    printed := console.printed + 1 }

/-- A failure ends the command at once, anything else when nothing comes any more. -/
def handle (job : Job) (console : Console) : Pass.Event → Console
  | .row row => console.print job row
  | .finished (.failed failure) =>
      { console with response := some (job.respond console.output (.failed failure)) }
  | .finished _ => console

def receive (job : Job) (console : Console) : Console :=
  if console.response.isSome then console
  else match console.session.reply with
    | .event event => { console with session := console.session.receive }.handle job event
    | .pending => console
    | .ended => { console with response := some (.done console.output) }

def act (job : Job) (console : Console) : Pass.Act → Console
  | .work => { console with session := console.session.work job.plan }
  | .receive => console.receive job
  | .cancel => if console.requested then { console with session := console.session.cancel } else console

def play (job : Job) (console : Console) (schedule : List Pass.Act) : Console :=
  schedule.foldl (act job) console

end Console

def Job.answer? (job : Job) (schedule : List Pass.Act) : Option Response :=
  ((Console.start job).play job schedule).response

end CommitLanes.Command
