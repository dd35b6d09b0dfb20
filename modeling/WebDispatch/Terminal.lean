import WebDispatch.Answer
import WebDispatch.Authentication
import WebDispatch.Chain
import WebDispatch.Template.Engine
import WebDispatch.Transaction

namespace WebDispatch

open Http

variable {σ : Type}

abbrev RouteFunction (σ : Type) := List (Injected σ) → Run (Scene σ) Answer

structure Terminal (σ : Type) where
  function : RouteFunction σ
  injections : Injections σ
  template : Option (Template σ)
  headers : List (HeaderName × HeaderValue)
  /-- The content type that a structured answer may replace, if the route did not choose one. -/
  defaultContentType : Option HeaderValue
  roles : Roles
  authenticator : Option (Authenticator σ)
  transactions : Option (TransactionManager σ × TransactionOptions)
  serializer : Serializer

namespace Terminal

def endWith (status : Nat) (x : Exchange) : Exchange :=
  { x with status, ended := true }

def judge (roles : Roles) (principal : Option Principal) (x : Exchange) : Bool × Exchange :=
  let x := { x with principal }
  match roles.check principal with
  | .ok () => (true, x)
  | .error _ => (false, endWith 403 x)

def authorize (t : Terminal σ) : Run (Scene σ) Bool := do
  if t.roles.isOpen then return true
  match t.authenticator with
  | none =>
    Run.modifyExchange (endWith 403)
    return false
  | some authenticator =>
    match ← authenticator with
    | .refused =>
      Run.modifyExchange Exchange.finish
      return false
    | .authenticated principal =>
      let (isIn, x) := judge t.roles principal (← Run.exchange)
      Run.modifyExchange fun _ ↦ x
      return isIn

def putHeaders (headers : List (HeaderName × HeaderValue)) (x : Exchange) : Exchange :=
  { x with headers := headers.foldl (fun hs h ↦ hs.insert h.1 h.2) x.headers }

def invoke (t : Terminal σ) : Run (Scene σ) Answer := do
  t.function (← Run.injected t.injections)

def invokeInTransaction (t : Terminal σ) : Run (Scene σ) Answer :=
  match t.transactions with
  | some (manager, options) => manager.within options t.invoke
  | none => t.invoke

/-- Puts another content type in place of the default one, if that is still there. -/
def replaceContentType (default : Option HeaderValue) (contentType : String) (x : Exchange) :
    Exchange :=
  match default, HeaderValue.parse? contentType with
  | some value, some new =>
    if x.headers.get? .contentType = some value then
      { x with headers := x.headers.insert .contentType new }
    else x
  | _, _ => x

def sendText (text : String) : Run (Scene σ) Unit :=
  Run.modifyExchange fun x ↦ x.send (Text.Utf8.encode text)

def send (t : Terminal σ) (answer : Answer) : Run (Scene σ) Unit :=
  match t.template with
  | some template => do
    sendText (← Run.ofOutcome (← Run.ofApp (template.apply (.ofAnswer answer))))
  | none =>
    match answer with
    | .empty => pure ()
    | .text s => sendText s
    | .structured v => do
      let text ← Run.ofExcept (t.serializer.serialize v)
      Run.modifyExchange (replaceContentType t.defaultContentType t.serializer.contentType)
      sendText text

/-- Sends an answer, unless there is none or the exchange has ended. -/
def respond (t : Terminal σ) (answer : Answer) : Run (Scene σ) Unit := do
  let x ← Run.exchange
  if answer.isEmpty || x.ended then return
  t.send answer

def handler (t : Terminal σ) : Run (Scene σ) Unit := do
  if ← t.authorize then
    Run.modifyExchange (putHeaders t.headers)
    t.respond (← t.invokeInTransaction)

end Terminal

end WebDispatch
