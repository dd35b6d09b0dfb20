import WebDispatch.Text.Utf8

namespace WebDispatch.Text.Base64

def value? (c : Char) : Option Nat :=
  if 'A' ≤ c ∧ c ≤ 'Z' then some (c.toNat - 65)
  else if 'a' ≤ c ∧ c ≤ 'z' then some (c.toNat - 71)
  else if '0' ≤ c ∧ c ≤ '9' then some (c.toNat + 4)
  else if c = '+' then some 62
  else if c = '/' then some 63
  else none

def letter (n : Nat) : Char :=
  if n < 26 then .ofNat (n + 65)
  else if n < 52 then .ofNat (n + 71)
  else if n < 62 then .ofNat (n - 4)
  else if n = 62 then '+'
  else '/'

def byteAt (n place : Nat) : UInt8 :=
  .ofNat (n >>> (8 * place))

/-- The bytes of the last group: one or two if it is padded, three if not. -/
def lastGroup (a b c d : Char) : Option Bytes := do
  let x ← value? a
  let y ← value? b
  if c = '=' then
    guard (d = '=' ∧ y % 16 = 0)
    return [byteAt (x * 4 + y / 16) 0]
  let z ← value? c
  if d = '=' then
    guard (z % 4 = 0)
    let n := x * 1024 + y * 16 + z / 4
    return [byteAt n 1, byteAt n 0]
  let w ← value? d
  let n := x * 262144 + y * 4096 + z * 64 + w
  return [byteAt n 2, byteAt n 1, byteAt n 0]

def decode : List Char → Option Bytes
  | [] => some []
  | [a, b, c, d] => lastGroup a b c d
  | a :: b :: c :: d :: cs => do
    let x ← value? a
    let y ← value? b
    let z ← value? c
    let w ← value? d
    let n := x * 262144 + y * 4096 + z * 64 + w
    let bs ← decode cs
    return byteAt n 2 :: byteAt n 1 :: byteAt n 0 :: bs
  | _ => none

def encode : Bytes → List Char
  | [] => []
  | [a] => [letter (a.toNat / 4), letter (a.toNat % 4 * 16), '=', '=']
  | [a, b] =>
    [letter (a.toNat / 4), letter (a.toNat % 4 * 16 + b.toNat / 16), letter (b.toNat % 16 * 4), '=']
  | a :: b :: c :: bs =>
    letter (a.toNat / 4) :: letter (a.toNat % 4 * 16 + b.toNat / 16) ::
      letter (b.toNat % 16 * 4 + c.toNat / 64) :: letter (c.toNat % 64) :: encode bs

theorem value?_letter : ∀ n < 64, value? (letter n) = some n := by decide

end WebDispatch.Text.Base64
