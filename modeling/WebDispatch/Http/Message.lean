import WebDispatch.Error
import WebDispatch.Http.Header
import WebDispatch.Http.Uri
import WebDispatch.Json.Basic

namespace WebDispatch

namespace Http

structure Method where
  name : String
  deriving DecidableEq, Repr

namespace Method

def parse? (s : String) : Option Method :=
  if isToken s then some ⟨s⟩ else none

def get : Method := ⟨"GET"⟩
def post : Method := ⟨"POST"⟩
def put : Method := ⟨"PUT"⟩
def delete : Method := ⟨"DELETE"⟩
def head : Method := ⟨"HEAD"⟩
def connect : Method := ⟨"CONNECT"⟩

end Method

structure RequestHead where
  method : Method
  uri : Uri
  headers : Headers
  deriving DecidableEq, Repr

def RequestHead.parse? (method uri : String) (headers : List (String × Bytes)) :
    Option RequestHead := do
  let method ← Method.parse? method
  let uri ← Uri.parse? uri
  let headers ← Headers.ofPairs? headers
  return { method, uri, headers }

/-- A piece of a body as it arrives, or the text of the transport's error. -/
inductive Chunk
  | data (bytes : Bytes)
  | failure (message : String)
  deriving DecidableEq, Repr

structure Request where
  head : RequestHead
  body : List Chunk
  deriving DecidableEq, Repr

structure Problem where
  status : Nat
  message : String
  deriving DecidableEq, Repr

def Problem.document (p : Problem) (timestamp : String) : Json :=
  .ofFields [("statusCode", .nat p.status), ("message", .string p.message),
    ("timestamp", .string timestamp)]

inductive Content
  | bytes (bytes : Bytes)
  | problem (p : Problem)
  deriving DecidableEq, Repr

structure Response where
  status : Nat
  headers : Headers
  content : Content
  deriving DecidableEq, Repr

def typedAs (contentType : String) : Headers :=
  Headers.empty.insert .contentType ⟨Text.Utf8.encode contentType⟩

def Problem.response (p : Problem) : Response :=
  ⟨p.status, typedAs "application/json", .problem p⟩

def Response.plain (status : Nat) (text : String) : Response :=
  ⟨status, typedAs "text/plain; charset=utf-8", .bytes (Text.Utf8.encode text)⟩

end Http

open Http

def Error.response (e : Error) : Response :=
  Problem.response ⟨e.status, e.message⟩

/-- An error that is not the client's shows nothing of itself. -/
def Failure.problem (f : Failure) : Problem :=
  match f.cause? with
  | some e =>
    if 400 ≤ e.status ∧ e.status < 500 then ⟨e.status, e.message⟩
    else ⟨500, "Internal Server Error"⟩
  | none => ⟨500, "Internal Server Error"⟩

def Failure.response (f : Failure) : Response :=
  f.problem.response

def Http.headerPair (name value : String) : Except Error (HeaderName × HeaderValue) :=
  match HeaderName.parse? name, HeaderValue.parse? value with
  | none, _ => .error (.invalidHeader name "invalid HTTP header name")
  | some _, none => .error (.invalidHeader name "failed to parse header value")
  | some n, some v => .ok (n, v)

end WebDispatch
