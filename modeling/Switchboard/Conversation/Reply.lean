import Switchboard.Frame.Basic
import Switchboard.Json.Writer
/-! Replies: what a subscriber learns from a frame, less its topic. -/

set_option autoImplicit false
set_option relaxedAutoImplicit false

namespace Switchboard

structure Reply where
  code : String
  value : Json
  deriving DecidableEq

def Frame.reply (frame : Frame) : Reply := ⟨frame.code, frame.value⟩

namespace Reply

def isPayload (reply : Reply) : Bool := reply.code = payloadCode

def isError (reply : Reply) : Bool := reply.code = errorCode

def isEnd (reply : Reply) : Bool := reply.code = endCode

/-- The value as running text: a string as it is, nothing for null, and JSON for the rest. -/
def valueText (reply : Reply) : String :=
  match reply.value with
  | .string text => text
  | .null => ""
  | value => value.write

/-- One printed line: the code, a tab and the value. -/
def line (reply : Reply) : String := reply.code ++ "\t" ++ reply.valueText

end Reply

inductive BusError
  | closed
  | cancelled
  deriving DecidableEq, Repr

def BusError.message : BusError → String
  | .closed => "Connection closed"
  | .cancelled => "Subscription cancelled before a reply arrived"

end Switchboard
