import Switchboard.Decimal.Digits
import Switchboard.Text.Excerpt
/-!
Addresses: the parts of the text that an endpoint is. An address has a scheme, an authority and a
path, or it is an authority alone, or a path alone. Reading one finds these parts, or the first
thing that is wrong with it.
-/

set_option autoImplicit false
set_option relaxedAutoImplicit false

namespace Switchboard

inductive AddressFault
  /-- There is no text, or none behind the scheme. -/
  | empty
  | tooLong
  | schemeTooLong
  /-- A character has no place where it stands. -/
  | character
  | authority
  | format
  deriving DecidableEq, Repr

def AddressFault.text : AddressFault → String
  | .empty => "empty string"
  | .tooLong => "uri too long"
  | .schemeTooLong => "scheme too long"
  | .character => "invalid uri character"
  | .authority => "invalid authority"
  | .format => "invalid format"

/-- The parts of an address that say where it leads to. -/
structure Address where
  scheme : Option (List Char) := none
  authority : Option (List Char) := none
  deriving DecidableEq, Repr

namespace Address

def splitAtFirst (stop : Char → Bool) (text : List Char) : List Char × List Char :=
  (text.takeWhile fun c => !stop c, text.dropWhile fun c => !stop c)

/-- A text behind the last member of a kind; all of it, if it has none. -/
def afterLast (stop : Char → Bool) (text : List Char) : List Char :=
  (splitAtFirst stop text.reverse).1.reverse

def lengthLimit : Nat := 65534

def schemeLimit : Nat := 64

/-- How many colons may follow each other with no bracket or at sign between them. -/
def colonLimit : Nat := 8

def isSchemeChar (c : Char) : Bool := c.isAlphanum || c = '+' || c = '-' || c = '.'

def isAuthorityChar (c : Char) : Bool :=
  c.isAlphanum || "!$&'()*+,-.:;=@[]_~".toList.contains c

def isPathChar (c : Char) : Bool :=
  '!' ≤ c && c ≠ '<' && c ≠ '>' && c ≠ '\x60'

def isQueryChar (c : Char) : Bool := '!' ≤ c && c ≠ '"' && c ≠ '<' && c ≠ '>'

/-- Splits the scheme off an address. The web schemes are the same in letters of either case; a text
that has nothing but an empty scheme has none. -/
def splitScheme (text : List Char) : Except AddressFault (Option (List Char) × List Char) :=
  match splitAtFirst (fun c => !isSchemeChar c) text with
  | ([], [':', '/', '/']) => .ok (none, text)
  | (scheme, ':' :: '/' :: '/' :: rest) =>
    let lower := scheme.map Char.toLower
    if lower = "http".toList ∨ lower = "https".toList then .ok (some lower, rest)
    else if schemeLimit < scheme.length then .error .schemeTooLong
    else .ok (some scheme, rest)
  | _ => .ok (none, text)

structure Scan where
  /-- The colons since the last bracket or at sign. -/
  colons : Nat := 0
  opened : Bool := false
  closed : Bool := false
  /-- Whether a percent sign stands behind the last closing bracket or at sign. -/
  percent : Bool := false
  /-- Whether an at sign came last. -/
  endsInAt : Bool := false
  deriving DecidableEq, Repr

/-- Reads one more character of an authority. What comes before an at sign names a user, and what
stands in brackets a host; neither holds the colon in front of the number of a socket. -/
def Scan.next (scan : Scan) (c : Char) : Except AddressFault Scan :=
  let scan := { scan with endsInAt := c = '@' }
  if c = ':' then
    if colonLimit ≤ scan.colons then .error .authority
    else .ok { scan with colons := scan.colons + 1 }
  else if c = '[' then
    if scan.percent || scan.opened then .error .authority else .ok { scan with opened := true }
  else if c = ']' then
    if !scan.opened || scan.closed then .error .authority
    else .ok { scan with closed := true, colons := 0, percent := false }
  else if c = '@' then .ok { scan with colons := 0, percent := false }
  else if c = '%' then .ok { scan with percent := true }
  else if isAuthorityChar c then .ok scan
  else .error .character

def Scan.isComplete (scan : Scan) : Bool :=
  scan.opened = scan.closed && scan.colons ≤ 1 && !scan.endsInAt && !scan.percent

/-- Splits a text into its authority and the path behind it. In front of a path the authority may be
empty. -/
def splitAuthority (text : List Char) : Except AddressFault (List Char × List Char) := do
  if text = [] then .error .empty
  else
    let (authority, path) := splitAtFirst (fun c => c = '/' || c = '?' || c = '#') text
    let scan ← authority.foldlM Scan.next {}
    if scan.isComplete then .ok (authority, path) else .error .authority

/-- Whether every character of a path and of the query behind it stands for itself; a fragment may
hold anything. -/
def hasPlainPath (text : List Char) : Bool :=
  let (path, rest) := splitAtFirst (fun c => c = '?' || c = '#') text
  path.all isPathChar &&
    match rest with
    | '?' :: query => (query.takeWhile (· ≠ '#')).all isQueryChar
    | _ => true

/-- Reads an address that is no path alone. -/
def readFull (text : List Char) : Except AddressFault Address := do
  let (scheme, rest) ← splitScheme text
  let (authority, path) ← splitAuthority rest
  match scheme with
  | none => if path = [] then .ok { authority := some authority } else .error .format
  | some scheme =>
    if authority = [] then .error .format
    else if hasPlainPath path then .ok { scheme := some scheme, authority := some authority }
    else .error .character

def read (text : String) : Except AddressFault Address :=
  let chars := text.toList
  if lengthLimit < Text.octetCount chars then .error .tooLong
  else
    match chars with
    | [] => .error .empty
    | ['*'] => .ok {}
    | ['?'] | ['#'] => .error .character
    | '/' :: _ => if hasPlainPath chars then .ok {} else .error .character
    | _ => readFull chars

/-- The host that an authority names: what follows the user, up to a colon outside brackets. -/
def hostOf (authority : List Char) : List Char :=
  match afterLast (· = '@') authority with
  | '[' :: rest => '[' :: (splitAtFirst (· = ']') rest).1 ++ [']']
  | host => (splitAtFirst (· = ':') host).1

def greatestSocket : Nat := 65535

def socketOf? (authority : List Char) : Option Nat :=
  if authority.contains ':' then
    Decimal.readUpTo greatestSocket (afterLast (· = ':') authority)
  else none

/-- The socket that a scheme implies. Only the schemes of a line imply one. -/
def impliedSocket? (scheme : List Char) : Option Nat :=
  if scheme = "ws".toList then some 80
  else if scheme = "wss".toList then some 443
  else none

def host? (a : Address) : Option (List Char) := a.authority.map hostOf

def socket? (a : Address) : Option Nat :=
  (a.authority.bind socketOf?).or (a.scheme.bind impliedSocket?)

def hasLineScheme (a : Address) : Bool := (a.scheme.bind impliedSocket?).isSome

end Address

/-- What follows `head` in a text that starts with it. -/
def afterStart? (head text : List Char) : Option (List Char) :=
  match head, text with
  | [], rest => some rest
  | _ :: _, [] => none
  | c :: head, d :: rest => if c = d then afterStart? head rest else none

/-- Replaces a leading web scheme by the scheme of a line; anything else stays as it is. -/
def normalizeChars (url : List Char) : List Char :=
  match afterStart? "https://".toList url with
  | some rest => "wss://".toList ++ rest
  | none =>
    match afterStart? "http://".toList url with
    | some rest => "ws://".toList ++ rest
    | none => url

def normalizeEndpoint (url : String) : String := String.ofList (normalizeChars url.toList)

end Switchboard
