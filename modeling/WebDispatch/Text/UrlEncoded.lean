import WebDispatch.Text.Percent

namespace WebDispatch.Text.UrlEncoded

def ampersand : UInt8 := 0x26

def equals : UInt8 := 0x3D

def plus : UInt8 := 0x2B

def component (bs : Bytes) : String :=
  Utf8.decodeLossy (Percent.decode (bs.map fun b ↦ if b = plus then 0x20 else b))

def pair (piece : Bytes) : String × String :=
  (component (piece.takeWhile (· ≠ equals)), component ((piece.dropWhile (· ≠ equals)).drop 1))

/-- Names and values of the form `name=value&name=value`. A piece without an equals sign is a name. -/
def parse (bs : Bytes) : List (String × String) :=
  ((bs.splitOn ampersand).filter (!·.isEmpty)).map pair

end WebDispatch.Text.UrlEncoded
