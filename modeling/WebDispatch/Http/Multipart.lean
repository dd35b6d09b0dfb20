import WebDispatch.Http.MediaType

namespace WebDispatch.Http.Multipart

def crlf : Bytes := [0x0D, 0x0A]

def dashes : Bytes := [0x2D, 0x2D]

def splitAtFirst (pattern : Bytes) : Bytes → Option (Bytes × Bytes)
  | [] => if pattern.isEmpty then some ([], []) else none
  | b :: bs =>
    if pattern.isPrefixOf (b :: bs) then some ([], (b :: bs).drop pattern.length)
    else (splitAtFirst pattern bs).map fun p ↦ (b :: p.1, p.2)

def isPadding (b : UInt8) : Bool :=
  b == 0x20 || b == 0x09

/-! ### Headers of a part -/

def maxHeaders : Nat := 32

def afterBreak : Bytes → Option Bytes
  | 0x0D :: 0x0A :: bs => some bs
  | 0x0A :: bs => some bs
  | _ => none

def isTokenByte (b : UInt8) : Bool :=
  b < 0x80 && isTokenChar (.ofNat b.toNat)

def trimPadding (bs : Bytes) : Bytes :=
  (bs.reverse.dropWhile isPadding).reverse

/-- Header lines up to an empty one, at most as many as the fuel. Of two values of one name the
later counts. -/
def headerLines : Nat → Bytes → Option Headers
  | fuel, bs =>
    match afterBreak bs with
    | some _ => some {}
    | none =>
      match fuel with
      | 0 => none
      | fuel + 1 => do
        let name ← HeaderName.parse?
          (.ofList ((bs.takeWhile isTokenByte).map fun b ↦ .ofNat b.toNat))
        match bs.dropWhile isTokenByte with
        | 0x3A :: bs =>
          let bs := bs.dropWhile isPadding
          let value ← HeaderValue.ofBytes? (trimPadding (bs.takeWhile isValueByte))
          let rest ← afterBreak (bs.dropWhile isValueByte)
          let headers ← headerLines fuel rest
          return if (headers.get? name).isSome then headers else ⟨(name, value) :: headers.entries⟩
        | _ => none

/-! ### Content-Disposition -/

def isAsciiBlank (b : UInt8) : Bool :=
  b == 0x20 || (0x09 ≤ b && b ≤ 0x0D && b != 0x0B)

def afterBlanksAnd (byte : UInt8) (bs : Bytes) : Option Bytes :=
  match bs.dropWhile isAsciiBlank with
  | b :: rest => if b = byte then some rest else none
  | [] => none

def quotedText : Bytes → Option Bytes
  | [] => none
  | 0x5C :: 0x22 :: bs => (quotedText bs).map (0x22 :: ·)
  | b :: bs => if b = 0x22 then some [] else (quotedText bs).map (b :: ·)

def attributeValue (bs : Bytes) : Option String := do
  let bs ← afterBlanksAnd 0x3D bs
  match afterBlanksAnd 0x22 bs with
  | some bs => Text.Utf8.decode? (← quotedText bs)
  | none =>
    Text.Utf8.decode? ((bs.dropWhile isAsciiBlank).takeWhile fun b ↦ b != 0x3B && b != 0x20)

/-- The value of an attribute of a Content-Disposition. Its name begins the text or stands behind a
blank or a semicolon; `before` tells whether it may begin here. -/
def attributeText (name : Bytes) (before : Bool) : Nat → Bytes → Option String
  | 0, _ => none
  | _, [] => none
  | fuel + 1, b :: bs =>
    if name.isPrefixOf (b :: bs) then
      let rest := (b :: bs).drop name.length
      if before then attributeValue rest else attributeText name true fuel rest
    else attributeText name (isAsciiBlank b || b == 0x3B) fuel bs

def dispositionAttribute (name : String) (headers : Headers) : Option String :=
  (headers.get? .contentDisposition).bind fun v ↦
    attributeText (Text.Utf8.encode name) true (v.bytes.length + 1) v.bytes

/-! ### Parts -/

structure Part where
  name : Option String
  fileName : Option String
  contentType : Option String
  data : Bytes
  deriving DecidableEq, Repr

def Part.ofHeaders (headers : Headers) (data : Bytes) : Part where
  name := dispositionAttribute "name" headers
  fileName := dispositionAttribute "filename" headers
  contentType := do
    let value ← headers.get? .contentType
    let text ← value.text?
    let type ← MediaType.parse? text
    return type.text
  data

/-- The parts behind a boundary, which is given with its two dashes. A part takes bytes, so the
length of the body is fuel enough. -/
def partsAfter (delimiter : Bytes) : Nat → Bytes → Option (List Part)
  | 0, _ => none
  | fuel + 1, bs => do
    guard (2 ≤ bs.length)
    if dashes.isPrefixOf bs then return []
    match bs.dropWhile isPadding with
    | 0x0D :: 0x0A :: bs =>
      let (head, bs) ← splitAtFirst (crlf ++ crlf) bs
      let headers ← headerLines maxHeaders (head ++ crlf ++ crlf)
      let (data, bs) ← splitAtFirst (crlf ++ delimiter) bs
      let parts ← partsAfter delimiter fuel bs
      return Part.ofHeaders headers data :: parts
    | _ => none

def parse? (boundary : String) (body : Bytes) : Option (List Part) := do
  let delimiter := dashes ++ Text.Utf8.encode boundary
  let (_, bs) ← splitAtFirst delimiter body
  partsAfter delimiter (body.length + 1) bs

def boundary? (contentType : String) : Option String := do
  let m ← MediaType.parse? contentType
  guard (m.type = "multipart" ∧ m.subtype = "form-data")
  m.param? "boundary"

end WebDispatch.Http.Multipart
