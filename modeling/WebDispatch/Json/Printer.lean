import WebDispatch.Json.Basic
import WebDispatch.Text.Hex

namespace WebDispatch.Json

def escape (c : Char) : List Char :=
  match c with
  | '"' => ['\\', '"']
  | '\\' => ['\\', '\\']
  | '\x08' => ['\\', 'b']
  | '\x0c' => ['\\', 'f']
  | '\n' => ['\\', 'n']
  | '\r' => ['\\', 'r']
  | '\t' => ['\\', 't']
  | c =>
    if c.toNat < 0x20 then
      ['\\', 'u', '0', '0', Text.Hex.lower (c.toNat / 16), Text.Hex.lower (c.toNat % 16)]
    else [c]

def printString (s : String) : List Char :=
  '"' :: s.toList.flatMap escape ++ ['"']

mutual

def print : Json → List Char
  | .null => ['n', 'u', 'l', 'l']
  | .bool true => ['t', 'r', 'u', 'e']
  | .bool false => ['f', 'a', 'l', 's', 'e']
  | .number n => n.toJsonText
  | .string s => printString s
  | .array [] => ['[', ']']
  | .array (x :: xs) => '[' :: print x ++ printItems xs
  | .object [] => ['{', '}']
  | .object ((k, v) :: fs) => '{' :: printString k ++ ':' :: print v ++ printFields fs

/-- The items after the first one, and the closing bracket. -/
def printItems : List Json → List Char
  | [] => [']']
  | x :: xs => ',' :: print x ++ printItems xs

def printFields : List (String × Json) → List Char
  | [] => ['}']
  | (k, v) :: fs => ',' :: printString k ++ ':' :: print v ++ printFields fs

end

def toText (v : Json) : String :=
  .ofList v.print

end WebDispatch.Json
