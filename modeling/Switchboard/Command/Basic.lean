import Switchboard.Service.Query
/-!
Commands: what a user can have a bus do. Every command first waits for the line to open; each wait
of a command has a deadline of its own.
-/

set_option autoImplicit false
set_option relaxedAutoImplicit false

namespace Switchboard

inductive Command
  /-- Sends a message and prints the first reply. -/
  | request (topic message : String)
  | stream (topic message : String)
  /-- Prints every frame on a topic until interrupted. -/
  | watch (topic : String)
  /-- Asks the other side to shut down. -/
  | exit
  /-- Prints the state of the known services. -/
  | services
  | nodeInfo
  deriving DecidableEq, Repr

/-- The topic that is answered with a description of the node; its message is its name. -/
def nodeInfoTopic : String := "node-info"

inductive CommandFailure
  | notOpened
  | notConnected (endpoint : String)
  | noReply (topic : String) (seconds : Nat)
  | noNodeInfo (seconds : Nat)
  | reportedError (topic : String)
  | notClosed
  | bus (error : BusError)
  deriving DecidableEq, Repr

namespace CommandFailure

def message : CommandFailure → String
  | .notOpened => "Timed out waiting for the connection to open"
  | .notConnected endpoint => "Could not connect to " ++ endpoint
  | .noReply topic seconds =>
    "No reply on '" ++ topic ++ "' within " ++ Decimal.natText seconds ++ "s"
  | .noNodeInfo seconds => "No node info within " ++ Decimal.natText seconds ++ "s"
  | .reportedError topic => "Server reported an error on '" ++ topic ++ "'"
  | .notClosed => "Server did not close the connection"
  | .bus error => error.message

def cause? : CommandFailure → Option String
  | .notOpened | .noReply .. | .noNodeInfo _ | .notClosed => some "deadline has elapsed"
  | .notConnected _ => some BusError.closed.message
  | .reportedError _ | .bus _ => none

def fullText (failure : CommandFailure) : String :=
  match failure.cause? with
  | some cause => failure.message ++ ": " ++ cause
  | none => failure.message

end CommandFailure

/-- How far a command has come. Deadlines are points in time, in milliseconds. -/
inductive Progress
  | opening (deadline : Nat)
  | replying (call : Call) (deadline : Nat)
  | streaming (topic : String) (replies : ReplyStream) (deadline : Nat) (failed : Bool)
  | watching (id : SubscriptionId)
  | leaving (deadline : Nat)
  | querying (queries : List ServiceQuery)
  | finished
  deriving DecidableEq

end Switchboard
