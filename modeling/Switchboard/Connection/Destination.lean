import Switchboard.Connection.Address
import Switchboard.Connection.Basic
import Switchboard.Connection.Handshake
/-! Destinations: what a line finds where its endpoint points to, and why it may get no further. -/

set_option autoImplicit false
set_option relaxedAutoImplicit false

namespace Switchboard

inductive ConnectFailure
  | noAddress (fault : AddressFault)
  | noHost
  | unsupportedScheme
  | refused
  | unreachable
  /-- The peer answered the handshake otherwise than by agreeing to it. -/
  | answered (refusal : Refusal)
  | hungUp
  deriving DecidableEq, Repr

/-- A failure that is told once by its kind and once by itself. -/
private def twice (kind text : String) : String := kind ++ text ++ ": " ++ text

private def protocolFailure (text : String) : String := twice "WebSocket protocol error: " text

def Refusal.text : Refusal → String
  | .unreadable fault => protocolFailure ("httparse error: " ++ fault.text) ++ ": " ++ fault.text
  | .noStatusCode => twice "HTTP format error: " "invalid status code"
  | .status code => "HTTP error: " ++ statusText code
  | .noUpgradeField => protocolFailure "No \"Upgrade: websocket\" header"
  | .noConnectionField => protocolFailure "No \"Connection: upgrade\" header"
  | .keyMismatch => protocolFailure "Key mismatch in \"Sec-WebSocket-Accept\" header"

def ConnectFailure.cause : ConnectFailure → String
  | .noAddress fault => twice "HTTP format error: " fault.text
  | .noHost => twice "URL error: " "No host name in the URL"
  | .unsupportedScheme => twice "URL error: " "URL scheme not supported"
  | .refused => twice "IO error: " "Connection refused (os error 111)"
  | .unreachable => twice "IO error: " "Network is unreachable (os error 101)"
  | .answered refusal => refusal.text
  | .hungUp => protocolFailure "Handshake not finished"

/-- What failed: an endpoint is no address of a host, or it is and the line gets no further. -/
def ConnectFailure.subject (failure : ConnectFailure) (endpoint : String) : String :=
  match failure with
  | .noAddress _ | .noHost => "invalid WebSocket URL: " ++ endpoint
  | _ => "WebSocket connect to " ++ endpoint ++ " failed"

def ConnectFailure.text (failure : ConnectFailure) (endpoint : String) : String :=
  failure.subject endpoint ++ ": " ++ failure.cause

inductive Reach
  | answering
  | refusing
  | unreachable
  deriving DecidableEq, Repr

inductive Destination
  /-- A peer, which answers the handshake in its own time. -/
  | listening
  | failing (failure : ConnectFailure)
  deriving DecidableEq, Repr

/-- Where an endpoint leads to. An address without the number of a socket needs a scheme that
implies one; apart from that, the scheme matters only once the socket has been reached. -/
def Destination.ofEndpoint (endpoint : String) (reach : Reach) : Destination :=
  match Address.read endpoint with
  | .error fault => .failing (.noAddress fault)
  | .ok address =>
    if address.authority = none then .failing .noHost
    else if address.socket? = none then .failing .unsupportedScheme
    else
      match reach with
      | .refusing => .failing .refused
      | .unreachable => .failing .unreachable
      | .answering =>
        if address.hasLineScheme then .listening else .failing .unsupportedScheme

end Switchboard
