import Switchboard.Text.GraphemeExtend
import Switchboard.Text.Printable
/-!
Texts quoted for a diagnostic: between double quotes, with every character escaped that could not be
told from its surroundings.
-/

set_option autoImplicit false
set_option relaxedAutoImplicit false

namespace Switchboard.Text

private def hexDigits (n : Nat) : String := String.ofList (Nat.toDigits 16 n)

def codePointEscape (c : Char) : String := "\\u\x7b" ++ hexDigits c.toNat ++ "\x7d"

/-- One character inside quotes. The two delimiters have escapes of their own, and so have some
control characters; what is unprintable, or joins the character before it, is told by its code
point. -/
def quotedChar (c : Char) : String :=
  match c with
  | '"' => "\\\""
  | '\\' => "\\\\"
  | '\n' => "\\n"
  | '\r' => "\\r"
  | '\t' => "\\t"
  | '\x00' => "\\0"
  | c => if extendsGrapheme c || !isPrintable c then codePointEscape c else c.toString

def quoted (text : String) : String :=
  "\"" ++ String.join (text.toList.map quotedChar) ++ "\""

end Switchboard.Text
