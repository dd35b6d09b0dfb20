import WebDispatch.Text.Hex
import WebDispatch.Text.Shapeless

namespace WebDispatch.Text.Quoted

def escape (c : Char) : List Char :=
  match c with
  | '\x00' => ['\\', '0']
  | '\t' => ['\\', 't']
  | '\n' => ['\\', 'n']
  | '\r' => ['\\', 'r']
  | '"' => ['\\', '"']
  | '\\' => ['\\', '\\']
  | c => if isShapeless c then ['\\', 'u', '\x7b'] ++ Nat.toDigits 16 c.toNat ++ ['\x7d'] else [c]

/-- A text between double quotes, for diagnostic output. -/
def encode (s : String) : String :=
  .ofList ('"' :: s.toList.flatMap escape ++ ['"'])

end WebDispatch.Text.Quoted
