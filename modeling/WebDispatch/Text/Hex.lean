import WebDispatch.Text.Utf8

namespace WebDispatch.Text.Hex

def digit? (n : Nat) : Option Nat :=
  if 0x30 ≤ n ∧ n ≤ 0x39 then some (n - 0x30)
  else if 0x41 ≤ n ∧ n ≤ 0x46 then some (n - 0x37)
  else if 0x61 ≤ n ∧ n ≤ 0x66 then some (n - 0x57)
  else none

def lower (n : Nat) : Char :=
  .ofNat (if n < 10 then n + 0x30 else n + 0x57)

def upper (n : Nat) : Char :=
  .ofNat (if n < 10 then n + 0x30 else n + 0x37)

def encode (bs : Bytes) : String :=
  .ofList (bs.flatMap fun b ↦ [lower (b.toNat / 16), lower (b.toNat % 16)])

def decodeChars : List Char → Option Bytes
  | [] => some []
  | [_] => none
  | a :: b :: cs => do
    let x ← digit? a.toNat
    let y ← digit? b.toNat
    let bs ← decodeChars cs
    return .ofNat (16 * x + y) :: bs

def decode? (s : String) : Option Bytes :=
  decodeChars s.toList

theorem digit?_lower : ∀ n < 16, digit? (lower n).toNat = some n := by decide

theorem digit?_upper : ∀ n < 16, digit? (upper n).toNat = some n := by decide

end WebDispatch.Text.Hex
