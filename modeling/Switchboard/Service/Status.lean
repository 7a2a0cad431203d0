import Switchboard.Conversation.Reply
import Switchboard.Text.Excerpt
import Switchboard.Text.Printable
/-! Services of a node: how a reply tells their state, and the table that shows it. -/

set_option autoImplicit false
set_option relaxedAutoImplicit false

namespace Switchboard

namespace Text

/-- The code points with the Unicode property White_Space, as closed ranges in increasing order. -/
def blankRanges : List (Nat × Nat) :=
  [(0x0009, 0x000D), (0x0020, 0x0020), (0x0085, 0x0085), (0x00A0, 0x00A0), (0x1680, 0x1680),
    (0x2000, 0x200A), (0x2028, 0x2029), (0x202F, 0x202F), (0x205F, 0x205F), (0x3000, 0x3000)]

def isBlank (c : Char) : Bool := heldBy blankRanges c

def trimChars (text : List Char) : List Char :=
  ((text.dropWhile isBlank).reverse.dropWhile isBlank).reverse

/-- A text without its leading and trailing blanks; inner blanks stay. -/
def trim (text : String) : String := String.ofList (trimChars text.toList)

end Text

inductive ServiceStatus
  | active
  | inactive
  | notFound
  | other (text : String)
  | failed (reason : String)
  deriving DecidableEq, Repr

namespace ServiceStatus

/-- Reads a reply to a status request: anything but a normal delivery is a failure, and the three
known words are recognised between blanks. -/
def ofReply (reply : Reply) : ServiceStatus :=
  if reply.isPayload then
    let text := Text.trim reply.valueText
    if text = "active" then .active
    else if text = "inactive" then .inactive
    else if text = "not found" then .notFound
    else .other text
  else .failed reply.valueText

def text : ServiceStatus → String
  | .active => "active"
  | .inactive => "inactive"
  | .notFound => "not found"
  | .other text => text
  | .failed reason => "error: " ++ reason

end ServiceStatus

structure ServiceReport where
  name : String
  status : ServiceStatus
  deriving DecidableEq, Repr

def nameHeading : String := "SERVICE"

def statusHeading : String := "STATUS"

/-- The width of the name column: the most octets that a name or the heading takes. -/
def columnWidth (reports : List ServiceReport) : Nat :=
  (reports.map fun report => Text.octetCount report.name.toList).foldl max
    (Text.octetCount nameHeading.toList)

/-- Fills a text up with spaces to a number of characters; a longer text stays as it is. -/
def padRight (width : Nat) (text : String) : String :=
  String.ofList (text.toList ++ List.replicate (width - text.toList.length) ' ')

def tableLine (width : Nat) (name status : String) : String :=
  padRight width name ++ "  " ++ status ++ "\n"

def statusTable (reports : List ServiceReport) : String :=
  let width := columnWidth reports
  String.join (tableLine width nameHeading statusHeading ::
    reports.map fun report => tableLine width report.name report.status.text)

end Switchboard
