import Switchboard.Connection.Basic
import Switchboard.Frame.Codec
import Switchboard.Registry.Basic
import Switchboard.Service.Status
import Switchboard.Text.Excerpt
/-!
The journal: everything noteworthy that happens on an exchange and its line, in order. Most entries
have a log record, which is the entry put into words; the rest are kept for the account alone.
-/

set_option autoImplicit false
set_option relaxedAutoImplicit false

namespace Switchboard

inductive Event
  | subscribed (id : SubscriptionId) (topic : String) (delivery : Delivery)
  | unsubscribed (id : SubscriptionId)
  /-- A callback was invoked. -/
  | started (id : SubscriptionId) (reply : Reply)
  /-- An invoked callback came to its end, whether it returned or failed. -/
  | finished (id : SubscriptionId)
  | panicked (id : SubscriptionId) (topic : String)
  | malformed (error : FrameError) (text : String)
  | unmatched (topic : String)
  | delivered (topic code : String) (count : Nat)
  | published (frame : Frame)
  /-- A text waits for the line to open, as the last of so many. -/
  | queued (pending : Nat)
  /-- A waiting text was given up, because the line closed instead. -/
  | forgone (text : String)
  | connecting (endpoint : String)
  | opened
  | refused (endpoint : String) (reason : CloseReason)
  | discarded (phase : Phase) (text : String)
  /-- An inbound text was handed to its handler. -/
  | handled (text : String)
  | wrote (text : String)
  | wrotePong (octets : List UInt8)
  | wroteClose
  | peerClosed
  | readFailed (reason : CloseReason)
  | streamEnded
  | writeFailed (text : String)
  | closed (reason : CloseReason)
  | notified (reason : CloseReason)
  | created (endpoint : String)
  | lastHandleDropped (endpoint : String)
  | serviceAnswered (name : String) (status : ServiceStatus)
  | watching (topic : String) (id : SubscriptionId)
  | watchEnded
  deriving DecidableEq

inductive Level
  | error
  | warn
  | info
  | debug
  | trace
  deriving DecidableEq, Repr

structure Record where
  level : Level
  text : String
  deriving DecidableEq, Repr

namespace Event

def excerptLimit : Nat := 100

private def octetsText (text : String) : String :=
  Decimal.natText (Text.octetCount text.toList) ++ " bytes"

/-- The log record of an entry, if it has one. For a malformed text there is none either where the
cut of the text would fail. -/
def record? : Event → Option Record
  | .subscribed id topic delivery => some ⟨.debug,
      "[registry] Subscribed " ++ id.text ++ " to '" ++ topic ++ "'" ++
        (match delivery with
          | .once => " (once)"
          | .persistent => "")⟩
  | .unsubscribed id => some ⟨.debug, "[registry] Unsubscribed " ++ id.text⟩
  | .panicked id topic => some ⟨.error,
      "[registry] Callback for " ++ id.text ++ " panicked on topic '" ++ topic ++ "'"⟩
  | .malformed error text => (Text.excerpt? text excerptLimit).map fun shown => ⟨.warn,
      "[router] Dropping malformed frame (" ++ error.message ++ "): " ++ shown⟩
  | .unmatched topic => some ⟨.trace, "[router] No subscriber for topic '" ++ topic ++ "'"⟩
  | .delivered topic code count => some ⟨.trace,
      "[router] Delivered '" ++ topic ++ "' (" ++ code ++ ") to " ++ Decimal.natText count ++
        " subscriber(s)"⟩
  | .queued pending => some ⟨.debug,
      "[readiness] Queued send until connection is open (" ++ Decimal.natText pending ++
        " pending)"⟩
  | .forgone text => some ⟨.warn,
      "[readiness] Connection closed before opening, dropping queued send (" ++
        octetsText text ++ ")"⟩
  | .connecting endpoint => some ⟨.info, "[connection] Connecting to " ++ endpoint⟩
  | .opened => some ⟨.info, "[connection] WebSocket connected"⟩
  | .refused endpoint reason => some ⟨.warn,
      "[connection] Connection to " ++ endpoint ++ " failed: " ++ reason.text⟩
  | .discarded phase text => some ⟨.debug,
      "[connection] Dropping send while " ++ phase.text ++ " (" ++ octetsText text ++ ")"⟩
  | .wrote text => some ⟨.trace, "[connection] Sent " ++ octetsText text⟩
  | .peerClosed => some ⟨.info, "[connection] Connection closed by server"⟩
  | .readFailed reason => some ⟨.warn, "[connection] WebSocket error: " ++ reason.reason⟩
  | .streamEnded => some ⟨.info, "[connection] WebSocket stream ended"⟩
  | .writeFailed _ => some ⟨.warn, "[connection] Send failed: " ++ writeFailure⟩
  | .closed reason => some ⟨.info, "[connection] Closed: " ++ reason.text⟩
  | .created endpoint => some ⟨.debug, "[bus] Created bus for " ++ endpoint⟩
  | .lastHandleDropped endpoint => some ⟨.debug,
      "[bus] Last handle dropped, closing " ++ endpoint⟩
  | .serviceAnswered name status => some ⟨.debug,
      "[services] " ++ name ++ " -> " ++ status.text⟩
  | .watching topic id => some ⟨.info, "Watching '" ++ topic ++ "' as " ++ id.text⟩
  | .watchEnded => some ⟨.info, "Connection closed"⟩
  | .started .. | .finished .. | .published .. | .handled .. | .wrotePong .. | .wroteClose
  | .notified .. => none

def routed (frame : Frame) (invoked : Nat) : Event :=
  if invoked = 0 then .unmatched frame.topic else .delivered frame.topic frame.code invoked

/-- Whether an entry tells of the line and what is in front of it, not of the exchange. -/
def isOutward : Event → Bool
  | .queued _ | .forgone _ | .connecting _ | .opened | .refused .. | .discarded .. | .handled _
  | .wrote _ | .wrotePong _ | .wroteClose | .peerClosed | .readFailed _ | .streamEnded
  | .writeFailed _ | .closed _ | .notified _ | .lastHandleDropped _ => true
  | _ => false

end Event

end Switchboard
