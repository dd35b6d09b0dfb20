namespace WebDispatch

abbrev Bytes := List UInt8

namespace Text.Utf8

def encode (s : String) : Bytes :=
  s.toList.flatMap String.utf8EncodeChar

/-- Inside a character: the bits read so far, how many bytes they took, how many are still owed and
the range of the next one. -/
structure Partway where
  bits : Nat
  taken : Nat
  owed : Nat
  low : Nat := 0x80
  high : Nat := 0xBF
  deriving DecidableEq, Repr

inductive Piece
  | char (c : Char)
  | broken (size : Nat)
  | cutOff (size : Nat)
  deriving DecidableEq, Repr

def first (b : Nat) : Option Piece × Option Partway :=
  if b < 0x80 then (some (.char (.ofNat b)), none)
  else if b < 0xC2 then (some (.broken 1), none)
  else if b < 0xE0 then (none, some ⟨b - 0xC0, 1, 1, 0x80, 0xBF⟩)
  else if b = 0xE0 then (none, some ⟨0, 1, 2, 0xA0, 0xBF⟩)
  else if b = 0xED then (none, some ⟨0xD, 1, 2, 0x80, 0x9F⟩)
  else if b < 0xF0 then (none, some ⟨b - 0xE0, 1, 2, 0x80, 0xBF⟩)
  else if b = 0xF0 then (none, some ⟨0, 1, 3, 0x90, 0xBF⟩)
  else if b < 0xF4 then (none, some ⟨b - 0xF0, 1, 3, 0x80, 0xBF⟩)
  else if b = 0xF4 then (none, some ⟨4, 1, 3, 0x80, 0x8F⟩)
  else (some (.broken 1), none)

/-- The pieces of a run of bytes, from between characters or from inside one. A byte that cannot go
on with a character is read again as a first byte. -/
def pieces : Option Partway → Bytes → List Piece
  | none, [] => []
  | some p, [] => [.cutOff p.taken]
  | none, b :: bs => (first b.toNat).1.toList ++ pieces (first b.toNat).2 bs
  | some p, b :: bs =>
    if p.low ≤ b.toNat ∧ b.toNat ≤ p.high then
      let bits := p.bits * 64 + (b.toNat - 0x80)
      if p.owed ≤ 1 then .char (.ofNat bits) :: pieces none bs
      else pieces (some { bits, taken := p.taken + 1, owed := p.owed - 1 }) bs
    else .broken p.taken :: ((first b.toNat).1.toList ++ pieces (first b.toNat).2 bs)

/-- Where a text stops being UTF-8: after `index` good bytes come `size` bad ones, or it ends inside
a character. -/
structure Fault where
  index : Nat
  size : Option Nat
  deriving DecidableEq, Repr

def Fault.message (f : Fault) : String :=
  match f.size with
  | some n => s!"invalid utf-8 sequence of {n} bytes from index {f.index}"
  | none => s!"incomplete utf-8 byte sequence from index {f.index}"

def strict (index : Nat) : List Piece → Except Fault (List Char)
  | [] => .ok []
  | .char c :: ps =>
    match strict (index + c.utf8Size) ps with
    | .ok cs => .ok (c :: cs)
    | .error f => .error f
  | .broken n :: _ => .error ⟨index, some n⟩
  | .cutOff _ :: _ => .error ⟨index, none⟩

def Piece.lenient : Piece → Char
  | .char c => c
  | .broken _ => '\ufffd'
  | .cutOff _ => '\ufffd'

def decode (bs : Bytes) : Except Fault String :=
  (strict 0 (pieces none bs)).map .ofList

def decode? (bs : Bytes) : Option String :=
  (decode bs).toOption

def decodeLossy (bs : Bytes) : String :=
  .ofList ((pieces none bs).map Piece.lenient)

end Text.Utf8

end WebDispatch
