import Gatehouse.Text.Hex
import Gatehouse.Text.Visible

/-! Quoted text, as it stands in error messages and in the texts that show a value: between double
quotes, with a backslash before whatever could be mistaken for the frame and the code point of
whatever would not be seen. -/

namespace Gatehouse.Text.Quoted

def escape (c : Char) : List Char :=
  match c with
  | '"' => ['\\', '"']
  | '\\' => ['\\', '\\']
  | '\n' => ['\\', 'n']
  | '\r' => ['\\', 'r']
  | '\t' => ['\\', 't']
  | '\x00' => ['\\', '0']
  | c => if isVisible c then [c] else '\\' :: 'u' :: '\x7b' :: hexDigits c.toNat ++ ['\x7d']

def encode (cs : List Char) : List Char := '"' :: cs.flatMap escape ++ ['"']

def quote (s : String) : String := String.ofList (encode s.toList)

end Gatehouse.Text.Quoted
