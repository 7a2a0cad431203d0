/-!
UTF-8 octets, read one at a time. The reader yields a character for each well-formed sequence and a
gap for each longest run of octets that begins some sequence without completing it.
-/

set_option autoImplicit false
set_option relaxedAutoImplicit false

namespace Switchboard.Text

/-- A sequence begun and not yet complete: the bits so far, how many octets it still owes, and the
least and the greatest octet that may come next. -/
structure Pending where
  bits : Nat
  owed : Nat
  low : Nat
  high : Nat
  deriving DecidableEq, Repr

inductive Octet
  | complete (c : Char)
  | more (sequence : Pending)
  | refused
  deriving DecidableEq

def firstOctet (b : Nat) : Octet :=
  if b ≤ 0x7F then .complete (Char.ofNat b)
  else if 0xC2 ≤ b ∧ b ≤ 0xDF then .more ⟨b - 0xC0, 1, 0x80, 0xBF⟩
  else if b = 0xE0 then .more ⟨0, 2, 0xA0, 0xBF⟩
  else if b = 0xED then .more ⟨0xD, 2, 0x80, 0x9F⟩
  else if 0xE1 ≤ b ∧ b ≤ 0xEF then .more ⟨b - 0xE0, 2, 0x80, 0xBF⟩
  else if b = 0xF0 then .more ⟨0, 3, 0x90, 0xBF⟩
  else if 0xF1 ≤ b ∧ b ≤ 0xF3 then .more ⟨b - 0xF0, 3, 0x80, 0xBF⟩
  else if b = 0xF4 then .more ⟨4, 3, 0x80, 0x8F⟩
  else .refused

/-- An octet inside a sequence: it is taken when it lies in the bounds, and completes the sequence
when it was the last one owed. -/
def Pending.next (sequence : Pending) (b : Nat) : Octet :=
  if sequence.low ≤ b ∧ b ≤ sequence.high then
    let bits := sequence.bits * 64 + (b - 0x80)
    if sequence.owed ≤ 1 then .complete (Char.ofNat bits)
    else .more ⟨bits, sequence.owed - 1, 0x80, 0xBF⟩
  else .refused

/-- Hands on what an octet between characters led to; a refused octet is a gap of its own. -/
def continueFrom (octet : Octet) (rest : Option Pending → List (Option Char)) :
    List (Option Char) :=
  match octet with
  | .complete c => some c :: rest none
  | .more sequence => rest (some sequence)
  | .refused => none :: rest none

/-- Reads octets from inside or outside a sequence. An octet that a sequence refuses closes the gap
and is then read as the first of the next one. -/
def scanOctets : Option Pending → List UInt8 → List (Option Char)
  | none, [] => []
  | some _, [] => [none]
  | none, b :: rest => continueFrom (firstOctet b.toNat) fun state => scanOctets state rest
  | some sequence, b :: rest =>
    match sequence.next b.toNat with
    | .complete c => some c :: scanOctets none rest
    | .more longer => scanOctets (some longer) rest
    | .refused =>
      none :: continueFrom (firstOctet b.toNat) fun state => scanOctets state rest

def replacementCharacter : Char := Char.ofNat 0xFFFD

/-- The text of any octets, with one replacement character for each gap. -/
def decodeLossy (octets : List UInt8) : String :=
  String.ofList ((scanOctets none octets).map fun piece => piece.getD replacementCharacter)

def decode? (octets : List UInt8) : Option String :=
  ((scanOctets none octets).mapM id).map String.ofList

def encode (text : String) : List UInt8 := text.toList.flatMap String.utf8EncodeChar

end Switchboard.Text
