import Switchboard.Command.Run
/-!
Tasks: conversations, waits and commands that run in the background of a bus. A task is polled when
something may have changed; it may have a deadline over all of its work, which counts only when the
work is not done by then.
-/

set_option autoImplicit false
set_option relaxedAutoImplicit false

namespace Switchboard

inductive Work
  | awaitOpen
  | awaitClosed
  | call (call : Call)
  | collect (collecting : Collecting)
  | query (queries : List ServiceQuery)
  | command (command : Command) (wait : Nat) (progress : Progress)
  deriving DecidableEq

inductive Result
  | opened (outcome : Except BusError Unit)
  | closed
  | reply (outcome : Except BusError Reply)
  | replies (replies : List Reply)
  | reports (reports : List ServiceReport)
  | command (outcome : Except CommandFailure Unit)
  | timedOut

inductive Hold
  | bus
  | line
  | nothing
  deriving DecidableEq, Repr

/-- A running task; its serial number tells it from others of the same name. -/
structure Task where
  serial : Nat
  name : String
  work : Work
  hold : Hold
  deadline : Option Nat := none
  deriving DecidableEq

namespace Work

variable {ν : Type}

def poll (now : Nat) : Work → Bus ν → Bus ν × Work × Poll Result
  | .awaitOpen, b =>
    match b.readiness with
    | .pending => (b, .awaitOpen, .pending)
    | .ready outcome => (b, .awaitOpen, .ready (.opened outcome))
  | .awaitClosed, b => (b, .awaitClosed, if b.isClosed then .ready .closed else .pending)
  | .call pending, b =>
    match pending.poll b with
    | (b, pending, .pending) => (b, .call pending, .pending)
    | (b, pending, .ready outcome) => (b, .call pending, .ready (.reply outcome))
  | .collect collecting, b =>
    match collecting.poll b with
    | (b, collecting, .pending) => (b, .collect collecting, .pending)
    | (b, collecting, .ready replies) =>
      (collecting.stream.drop b, .collect collecting, .ready (.replies replies))
  | .query queries, b =>
    let (b, queries) := ServiceQuery.pollAll now queries b
    (b, .query queries,
      match ServiceQuery.reports? queries with
      | some reports => .ready (.reports reports)
      | none => .pending)
  | .command c wait progress, b =>
    match c.poll wait now progress b with
    | (b, progress, .pending) => (b, .command c wait progress, .pending)
    | (b, progress, .ready outcome) => (b, .command c wait progress, .ready (.command outcome))

def drop (work : Work) (b : Bus ν) : Bus ν :=
  match work with
  | .awaitOpen | .awaitClosed => b
  | .call pending => pending.drop b
  | .collect collecting => collecting.stream.drop b
  | .query queries => ServiceQuery.dropAll queries b
  | .command _ _ progress => Command.drop progress b

def deadlines : Work → List Nat
  | .query queries => (queries.filter fun q => q.status.isNone).map ServiceQuery.deadline
  | .command _ _ progress =>
    match progress with
    | .opening deadline | .replying _ deadline | .streaming _ _ deadline _ | .leaving deadline =>
      [deadline]
    | .querying queries => (queries.filter fun q => q.status.isNone).map ServiceQuery.deadline
    | .watching _ | .finished => []
  | _ => []

end Work

namespace Task

variable {ν : Type}

def letGo (task : Task) (b : Bus ν) : Bus ν :=
  match task.hold with
  | .bus => b.release
  | .line => b.signal .release
  | .nothing => b

/-- Polls a task once. A task that yields lets go of what it kept; one that is late gives its work
up. -/
def poll (now : Nat) (task : Task) (b : Bus ν) : Bus ν × Task × Poll Result :=
  match task.work.poll now b with
  | (b, work, .ready result) => (task.letGo b, { task with work }, .ready result)
  | (b, work, .pending) =>
    let task := { task with work }
    if task.deadline.any fun deadline => deadline ≤ now then
      (task.letGo (work.drop b), task, .ready .timedOut)
    else (b, task, .pending)

def drop (task : Task) (b : Bus ν) : Bus ν := task.letGo (task.work.drop b)

def interrupt (task : Task) (b : Bus ν) : Bus ν × Poll Result :=
  match task.work with
  | .command _ _ progress =>
    match Command.interrupt progress b with
    | (b, .ready outcome) => (task.letGo b, .ready (.command outcome))
    | (b, .pending) => (b, .pending)
  | _ => (b, .pending)

def firstDeadline (task : Task) : Option Nat :=
  (task.deadline.toList ++ task.work.deadlines).min?

end Task

end Switchboard
