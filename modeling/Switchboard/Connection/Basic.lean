import Switchboard.Decimal.Digits
import Switchboard.Text.Quoted
/-! The life of a line: its three phases, and the ways in which it ends. -/

set_option autoImplicit false
set_option relaxedAutoImplicit false

namespace Switchboard

/-- A line is connecting, then perhaps open, and in the end closed for good. -/
inductive Phase
  | connecting
  | open
  | closed
  deriving DecidableEq, Repr

def Phase.text : Phase → String
  | .connecting => "connecting"
  | .open => "open"
  | .closed => "closed"

/-- Why a line closed, as its owner is told: a close code, if frames were ever exchanged, and a
reason in words. -/
structure CloseReason where
  code : Option Nat
  reason : String
  deriving DecidableEq, Repr

def CloseReason.text (r : CloseReason) : String :=
  match r.code with
  | some code => r.reason ++ " (" ++ Decimal.natText code ++ ")"
  | none => r.reason

/-- What ends a line. The first three end it before it opens. -/
inductive Ending
  | cancelled
  | timedOut (seconds : Nat)
  | refused (detail : String)
  | requested
  | abandoned
  | peerClosed (code : Option Nat) (reason : String)
  | readFailed (detail : String)
  | streamEnded
  | writeFailed (detail : String)
  deriving DecidableEq, Repr

/-- The close code of a peer that sent none. -/
def absentCloseCode : Nat := 1005

def brokenCloseCode : Nat := 1006

def normalCloseCode : Nat := 1000

def writeFailure : String := "WebSocket send_text failed"

/-- What the owner of a line is told of its end. -/
def Ending.closeReason : Ending → CloseReason
  | .cancelled => ⟨none, "closed before open"⟩
  | .timedOut seconds => ⟨none, "handshake timed out after " ++ Decimal.natText seconds ++ "s"⟩
  | .refused detail => ⟨none, detail⟩
  | .requested => ⟨some normalCloseCode, "client requested close"⟩
  | .abandoned => ⟨some normalCloseCode, "all handles dropped"⟩
  | .peerClosed code reason => ⟨some (code.getD absentCloseCode), reason⟩
  | .readFailed detail => ⟨some brokenCloseCode, "WebSocket read error: " ++ detail⟩
  | .streamEnded => ⟨some brokenCloseCode, "stream ended"⟩
  | .writeFailed detail => ⟨some brokenCloseCode, writeFailure ++ ": " ++ detail⟩

structure LineSetup where
  endpoint : String
  timeoutSeconds : Option Nat
  onMessage : Bool
  onClose : Bool
  deriving DecidableEq, Repr

def boolText (b : Bool) : String := if b then "true" else "false"

/-- A whole number of seconds with its unit; no time at all is counted in the least unit. -/
def secondsText (seconds : Nat) : String :=
  if seconds = 0 then "0ns" else Decimal.natText seconds ++ "s"

def LineSetup.describe (setup : LineSetup) : String :=
  "ConnectionBuilder \x7b endpoint: " ++ Text.quoted setup.endpoint ++ ", connect_timeout: " ++
    (match setup.timeoutSeconds with
      | none => "None"
      | some seconds => "Some(" ++ secondsText seconds ++ ")") ++
    ", on_message: " ++ boolText setup.onMessage ++ ", on_close: " ++ boolText setup.onClose ++
    " \x7d"

end Switchboard
