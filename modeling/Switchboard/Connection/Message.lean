import Switchboard.Text.Utf8
/-!
What a line reads from its socket. A peer may send what the protocol forbids; `Message.admitted`
says what reading makes of it.
-/

set_option autoImplicit false
set_option relaxedAutoImplicit false

namespace Switchboard

/-- One thing read from a socket: a message, a control frame of the peer, a failure to read, or that
there is nothing more to read. -/
inductive Message
  | text (text : String)
  | binary (octets : List UInt8)
  | ping (octets : List UInt8)
  | pong (octets : List UInt8)
  | close (code : Option Nat) (reason : String)
  | broken (detail : String)
  | ended
  deriving DecidableEq, Repr

/-- The text that a message carries to its handler; a binary message is read as UTF-8 in spite of
any gaps. -/
def Message.text? : Message → Option String
  | .text content => some content
  | .binary octets => some (Text.decodeLossy octets)
  | _ => none

/-- The close codes that an endpoint may send: those that the protocol gives a meaning other than
the lack of a close frame, and those left to libraries and applications. -/
def isSendableCloseCode (code : Nat) : Bool :=
  (1000 ≤ code && code ≤ 1003) || (1007 ≤ code && code ≤ 1013) || (3000 ≤ code && code ≤ 4999)

def violationCloseCode : Nat := 1002

def violationReason : String := "Protocol violation"

def controlFrameLimit : Nat := 125

def longFrameDetail : String :=
  "WebSocket protocol error: Control frame too big (payload must be 125 bytes or less)"

/-- How many octets a control frame holds; no other message is counted. A close code takes two of
them and comes before the reason. -/
def Message.controlLength : Message → Nat
  | .ping octets => octets.length
  | .pong octets => octets.length
  | .close (some _) reason => 2 + (Text.encode reason).length
  | _ => 0

/-- What reading makes of what a peer sent: a control frame that is too long cannot be read, and a
close code that no endpoint may send is taken for a violation of the protocol. -/
def Message.admitted (message : Message) : Message :=
  if controlFrameLimit < message.controlLength then .broken longFrameDetail
  else
    match message with
    | .close (some code) reason =>
      if isSendableCloseCode code then .close (some code) reason
      else .close (some violationCloseCode) violationReason
    | _ => message

end Switchboard
