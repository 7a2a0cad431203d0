import Switchboard.Json.Reader
/-!
Records: written objects, or arrays in field order, read field by field. A field may stand once;
unknown members are skipped without giving them a value, so that only their grammar counts.
-/

set_option autoImplicit false
set_option relaxedAutoImplicit false

namespace Switchboard.Written

inductive Occurrence
  | absent
  | once (written : Written)
  | repeated

def occurrence (key : String) : List (String × Written) → Occurrence
  | [] => .absent
  | (k, written) :: rest =>
    if k = key then
      match occurrence key rest with
      | .absent => .once written
      | _ => .repeated
    else occurrence key rest

/-- The members of a written object with their keys as text; a key without a text is a fault. -/
def keyedMembers : List (List Glyph × Written) → Option (List (String × Written))
  | [] => some []
  | (key, written) :: rest => do
    let k ← (Json.textOfGlyphs key).toOption
    let others ← keyedMembers rest
    some ((k, written) :: others)

def text? : Written → Option String
  | .string glyphs => (Json.textOfGlyphs glyphs).toOption
  | _ => none

def bool? : Written → Option Bool
  | .bool b => some b
  | _ => none

/-- A written integer that is not negative and fits 64 bits; the negative zero is a float. -/
def natural? : Written → Option Nat
  | .number n =>
    match Json.ofNumeral n with
    | .ok (.integer value) => if 0 ≤ value then some value.toNat else none
    | _ => none
  | _ => none

end Switchboard.Written
