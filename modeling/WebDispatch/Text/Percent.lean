import WebDispatch.Text.Hex

namespace WebDispatch.Text.Percent

def percent : UInt8 := 0x25

def decode : Bytes → Bytes
  | [] => []
  | [a] => [a]
  | [a, b] => [a, b]
  | a :: b :: c :: bs =>
    if a = percent then
      match Hex.digit? b.toNat, Hex.digit? c.toNat with
      | some x, some y => .ofNat (16 * x + y) :: decode bs
      | _, _ => a :: decode (b :: c :: bs)
    else a :: decode (b :: c :: bs)

def decodeText (s : String) : String :=
  (Utf8.decode? (decode (Utf8.encode s))).getD s

def isAlphanumeric (b : UInt8) : Bool :=
  (0x30 ≤ b && b ≤ 0x39) || (0x41 ≤ b && b ≤ 0x5A) || (0x61 ≤ b && b ≤ 0x7A)

/-- A byte as it stands if it is an ASCII letter or digit, and else as a percent sign and two digits
of the given kind. -/
def encodeByte (digit : Nat → Char) (b : UInt8) : List Char :=
  if isAlphanumeric b then [.ofNat b.toNat]
  else ['%', digit (b.toNat / 16), digit (b.toNat % 16)]

def encode (digit : Nat → Char) (s : String) : String :=
  .ofList ((Utf8.encode s).flatMap (encodeByte digit))

end WebDispatch.Text.Percent
