import Provision.Text.Digits
import Provision.Text.Printable

/-!
# Quoted text

The quoted form of a text stands between double quotes and shows every character: a quote and a
backslash are escaped by a backslash, five controls have letters of their own, and every other
character that is not printable is written by its number.
-/

namespace Provision.Text

def quotedChar (c : Char) : String :=
  match c with
  | '"' => "\\\""
  | '\\' => "\\\\"
  | '\n' => "\\n"
  | '\r' => "\\r"
  | '\t' => "\\t"
  | '\x00' => "\\0"
  | _ => if isPrintable c then c.toString else "\\u\x7b" ++ hexadecimal c.toNat ++ "\x7d"

def quoted (text : String) : String :=
  "\"" ++ String.join (text.toList.map quotedChar) ++ "\""

end Provision.Text
