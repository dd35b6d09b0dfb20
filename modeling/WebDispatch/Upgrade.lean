import WebDispatch.Http.Message
import WebDispatch.Text.Case
import WebDispatch.Text.Split

namespace WebDispatch

open Http

namespace Upgrade

inductive Rejection
  | connectionHeader
  | noKey
  | version
  | notUpgradable
  deriving DecidableEq, Repr

def Rejection.status : Rejection → Nat
  | .notUpgradable => 426
  | _ => 400

def Rejection.message : Rejection → String
  | .connectionHeader => "Connection header did not include 'upgrade'"
  | .noKey => "`Sec-WebSocket-Key` header missing"
  | .version => "`Sec-WebSocket-Version` header did not include '13'"
  | .notUpgradable => "WebSocket request couldn't be upgraded since no upgrade state was present"

def Rejection.response (r : Rejection) : Response :=
  .plain r.status r.message

def request? (uri key : String) : Option RequestHead :=
  RequestHead.parse? "GET" uri <|
    [("connection", "Upgrade"), ("upgrade", "websocket"), ("sec-websocket-version", "13"),
      ("sec-websocket-key", key)].map fun p ↦ (p.1, Text.Utf8.encode p.2)

def isRequested (head : RequestHead) : Bool :=
  head.method == .get &&
    ((head.headers.get? .upgrade).bind HeaderValue.text?).any (Text.sameIgnoringCase · "websocket")

/-- Whether the first value of a header contains a word in lower case, in any case itself. -/
def mentions (headers : Headers) (name : HeaderName) (word : String) : Bool :=
  ((headers.get? name).bind fun v ↦ Text.Utf8.decode? v.bytes).any fun s ↦
    Text.isInfix word.toList (Text.lower s).toList

def isVersion (headers : Headers) (version : String) : Bool :=
  headers.get? .webSocketVersion == some ⟨Text.Utf8.encode version⟩

def check (head : RequestHead) (isUpgradable : Bool) : Except Rejection Unit :=
  if !mentions head.headers .connection "upgrade" then .error .connectionHeader
  else if (head.headers.get? .webSocketKey).isNone then .error .noKey
  else if !isVersion head.headers "13" then .error .version
  else if !isUpgradable then .error .notUpgradable
  else .ok ()

end Upgrade

end WebDispatch
