import WebDispatch.Json.Basic
import WebDispatch.Text.Utf8

namespace WebDispatch

inductive Payload
  | text (s : String)
  | binary (bs : Bytes)
  | structured (v : Json)

/-- Any JSON value is structured, a string and null too. -/
def Payload.ofJson (v : Json) : Payload :=
  .structured v

abbrev Reply := Option Payload

def Reply.ofJson (v : Json) : Reply :=
  some (.ofJson v)

inductive Frame
  | text (s : String)
  | binary (bs : Bytes)
  | close
  deriving DecidableEq, Repr

structure CloseReason where
  code : Nat
  reason : String
  deriving DecidableEq, Repr

inductive Event
  | text (s : String)
  /-- One message, which may come in several pieces. -/
  | binary (pieces : List Bytes)
  | close (reason : Option CloseReason)
  | error (message : String)
  deriving DecidableEq, Repr

def reassemble : List Bytes → Bytes
  | [piece] => piece
  | pieces => pieces.foldl (· ++ ·) []

end WebDispatch
