import Switchboard.Connection.StatusCode
/-!
The opening handshake from the side of the line: reading the heading of the peer's answer, and why
an answer opens no line. A heading is a status line and fields, each on a line of its own, up to an
empty line.
-/

set_option autoImplicit false
set_option relaxedAutoImplicit false

namespace Switchboard

inductive HeadingFault
  | status
  | newLine
  | fieldName
  | fieldValue
  deriving DecidableEq, Repr

def HeadingFault.text : HeadingFault → String
  | .status => "invalid response status"
  | .newLine => "invalid new line"
  | .fieldName => "invalid header name"
  | .fieldValue => "invalid header value"

inductive Refusal
  | unreadable (fault : HeadingFault)
  /-- The status is three digits and yet below every status code. -/
  | noStatusCode
  /-- The peer keeps to the protocol that it was asked in. -/
  | status (code : Nat)
  | noUpgradeField
  | noConnectionField
  /-- The peer does not prove that it has read the request. -/
  | keyMismatch
  deriving DecidableEq, Repr

/-- The heading of an answer: its status, and the names of its fields in lower case with their
values, in order. -/
structure Heading where
  status : Nat
  fields : List (List Char × List Char)
  deriving DecidableEq, Repr

namespace Heading

/-- The lines of a text, without the line feeds between them. -/
def splitLines : List Char → List (List Char)
  | [] => [[]]
  | '\n' :: rest => [] :: splitLines rest
  | c :: rest =>
    match splitLines rest with
    | line :: lines => (c :: line) :: lines
    | [] => [[c]]

def withoutReturn (line : List Char) : List Char :=
  match line.getLast? with
  | some '\r' => line.dropLast
  | _ => line

/-- The characters of a phrase and of the value of a field: all but control characters, among which
a tab is let through. -/
def isValueChar (c : Char) : Bool := c = '\t' || (' ' ≤ c && c ≠ '\x7f')

def isNameChar (c : Char) : Bool := c.isAlphanum || "!#$%&'*+-.^_|~\x60".toList.contains c

def isFieldBlank (c : Char) : Bool := c = ' ' || c = '\t'

/-- Reads a status line: three digits and perhaps a phrase, which does not matter. -/
def readStatus : List Char → Except HeadingFault Nat
  | a :: b :: c :: phrase =>
    if [a, b, c].all Char.isDigit ∧ (phrase = [] ∨ phrase.head? = some ' ') ∧
        phrase.all isValueChar then
      .ok (Decimal.ofDigits ([a, b, c].map Decimal.digitValue))
    else .error .status
  | _ => .error .status

def trimValue (value : List Char) : List Char :=
  ((value.dropWhile isFieldBlank).reverse.dropWhile isFieldBlank).reverse

/-- Reads the line of a field: a name, a colon right behind it, and a value. -/
def readField (line : List Char) : Except HeadingFault (List Char × List Char) :=
  match line.takeWhile isNameChar, line.dropWhile isNameChar with
  | [], '\r' :: _ => .error .newLine
  | c :: name, ':' :: value =>
    if value.all isValueChar then .ok ((c :: name).map Char.toLower, trimValue value)
    else .error .fieldValue
  | _, _ => .error .fieldName

/-- Reads the lines of fields up to an empty line; what follows belongs to the answer's body. -/
def readFields : List (List Char) → Except HeadingFault (List (List Char × List Char))
  | [] => .ok []
  | [] :: _ => .ok []
  | line :: rest => do
    let field ← readField line
    let fields ← readFields rest
    .ok (field :: fields)

def read (text : String) : Except HeadingFault Heading := do
  match (splitLines text.toList).map withoutReturn with
  | [] => .error .status
  | line :: rest => do
    let status ← readStatus line
    let fields ← readFields rest
    .ok { status, fields }

/-- Whether the first field of a name has a certain value, in letters of either case. -/
def gives (heading : Heading) (name value : String) : Bool :=
  match heading.fields.lookup name.toList with
  | some found => found.map Char.toLower = value.toList
  | none => false

/-- Why an answer with this heading opens no line, if its peer does not know the key. -/
def refusal (heading : Heading) : Refusal :=
  if heading.status < leastStatus then .noStatusCode
  else if heading.status ≠ switchingStatus then .status heading.status
  else if !heading.gives "upgrade" "websocket" then .noUpgradeField
  else if !heading.gives "connection" "upgrade" then .noConnectionField
  else .keyMismatch

end Heading

def Refusal.ofStatus (status : String) : Refusal :=
  match Heading.read (status ++ "\r\n\r\n") with
  | .ok heading => heading.refusal
  | .error fault => .unreadable fault

end Switchboard
