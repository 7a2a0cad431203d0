import Switchboard.Command.Basic
/-!
Running a command: it is polled at points in time, goes on as far as it can, and prints what it
learns. When a wait is over in time nothing is lost by its deadline: what is waited for is looked at
first.
-/

set_option autoImplicit false
set_option relaxedAutoImplicit false

namespace Switchboard.Command

variable {ν : Type}

abbrev Turn (ν : Type) := Bus ν × Progress × Poll (Except CommandFailure Unit)

def finishWith (result : Except CommandFailure Unit) (b : Bus ν) : Turn ν :=
  (b, .finished, .ready result)

def outcome (topic : String) (reported : Bool) : Except CommandFailure Unit :=
  if reported then .error (.reportedError topic) else .ok ()

def wholeSeconds (wait : Nat) : Nat := wait / 1000

def lateReply (command : Command) (wait : Nat) : CommandFailure :=
  match command with
  | .request topic _ => .noReply topic (wholeSeconds wait)
  | _ => .noNodeInfo (wholeSeconds wait)

/-- Prints a reply to a command. An error reply fails a request, and a description of the node is
printed without the code of its frame. -/
def showReply (command : Command) (reply : Reply) (b : Bus ν) : Turn ν :=
  match command with
  | .request topic _ =>
    finishWith (outcome topic reply.isError) (b.print (reply.line ++ "\n"))
  | _ =>
    let text := if reply.isPayload then reply.valueText else reply.line
    finishWith (.ok ()) (b.print (text ++ "\n"))

def pollReplying (command : Command) (wait now : Nat) (call : Call) (deadline : Nat)
    (b : Bus ν) : Turn ν :=
  match call.poll b with
  | (b, _, .ready (.ok reply)) => showReply command reply b
  | (b, _, .ready (.error error)) => finishWith (.error (.bus error)) b
  | (b, call, .pending) =>
    if deadline ≤ now then finishWith (.error (lateReply command wait)) (call.drop b)
    else (b, .replying call deadline, .pending)

/-- Prints what a stream has received. Every reply grants the next one a full wait. -/
def pollStreaming (topic : String) (wait now : Nat) (replies : ReplyStream)
    (deadline : Nat) (failed : Bool) (b : Bus ν) : Turn ν :=
  let (b, replies, read, ended) := replies.drain ((b.box replies.box).length + 1) b
  let failed := failed || read.any Reply.isError
  let b := read.foldl (fun b reply => b.print (reply.line ++ "\n")) b
  let deadline := if read = [] then deadline else now + wait
  if ended then finishWith (outcome topic failed) (replies.drop b)
  else if deadline ≤ now then
    finishWith (.error (.noReply topic (wholeSeconds wait))) (replies.drop b)
  else (b, .streaming topic replies deadline failed, .pending)

def pollWatching (id : SubscriptionId) (b : Bus ν) : Turn ν :=
  if b.isClosed then finishWith (.ok ()) ((b.enter [.watchEnded]).unsubscribe id)
  else (b, .watching id, .pending)

def pollLeaving (now deadline : Nat) (b : Bus ν) : Turn ν :=
  if b.isClosed then finishWith (.ok ()) (b.print "Server closed the connection\n")
  else if deadline ≤ now then finishWith (.error .notClosed) b
  else (b, .leaving deadline, .pending)

def pollQuerying (now : Nat) (queries : List ServiceQuery) (b : Bus ν) : Turn ν :=
  let (b, queries) := ServiceQuery.pollAll now queries b
  match ServiceQuery.reports? queries with
  | some reports => finishWith (.ok ()) (b.print (statusTable reports))
  | none => (b, .querying queries, .pending)

def watcher (id : SubscriptionId) (reply : Reply) : Program ν :=
  .print (id.text ++ "\t" ++ reply.code ++ "\t" ++ reply.value.write ++ "\n") (.done .nothing)

def start (command : Command) (wait now : Nat) (b : Bus ν) : Turn ν :=
  let deadline := now + wait
  match command with
  | .request topic message =>
    pollReplying command wait now (.fresh topic (.string message)) deadline b
  | .stream topic message =>
    let (b, replies) := ReplyStream.openOn topic (.string message) b
    pollStreaming topic wait now replies deadline false b
  | .watch topic =>
    let id := b.registry.nextId
    let b := b.subscribe ⟨topic, .persistent, .program false watcher⟩
    pollWatching id (b.enter [.watching topic id])
  | .exit => pollLeaving now deadline b.sendExit
  | .services => pollQuerying now (ServiceQuery.all deadline) b
  | .nodeInfo =>
    pollReplying command wait now (.fresh nodeInfoTopic (.string nodeInfoTopic)) deadline b

def poll (command : Command) (wait now : Nat) : Progress → Bus ν → Turn ν
  | .opening deadline, b =>
    match b.readiness with
    | .ready (.ok ()) => start command wait now b
    | .ready (.error _) => finishWith (.error (.notConnected b.line.setup.endpoint)) b
    | .pending =>
      if deadline ≤ now then finishWith (.error .notOpened) b else (b, .opening deadline, .pending)
  | .replying call deadline, b => pollReplying command wait now call deadline b
  | .streaming topic replies deadline failed, b =>
    pollStreaming topic wait now replies deadline failed b
  | .watching id, b => pollWatching id b
  | .leaving deadline, b => pollLeaving now deadline b
  | .querying queries, b => pollQuerying now queries b
  | .finished, b => (b, .finished, .pending)

/-- Gives a command up. The subscription of a watch stays. -/
def drop (progress : Progress) (b : Bus ν) : Bus ν :=
  match progress with
  | .replying call _ => call.drop b
  | .streaming _ replies _ _ => replies.drop b
  | .querying queries => ServiceQuery.dropAll queries b
  | _ => b

/-- Interrupts a command; only a watch that has begun to watch takes notice. -/
def interrupt (progress : Progress) (b : Bus ν) : Bus ν × Poll (Except CommandFailure Unit) :=
  match progress with
  | .watching id => (b.unsubscribe id, .ready (.ok ()))
  | _ => (b, .pending)

end Switchboard.Command
