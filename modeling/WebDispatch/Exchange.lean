import WebDispatch.Entity
import WebDispatch.Http.Cookie
import WebDispatch.Principal
import WebDispatch.Run
import WebDispatch.Session

namespace WebDispatch

open Http

structure Exchange where
  request : RequestHead
  pathParams : List (String × String) := []
  query : List (String × String)
  entity : Entity := {}
  status : Nat := 200
  headers : Headers := {}
  body : Option Bytes := none
  ended : Bool := false
  principal : Option Principal := none
  session : Option String := none
  /-- The session was started by this exchange, and is stored with its response. -/
  startedSession : Bool := false
  deriving DecidableEq, Repr

namespace Exchange

def ofRequest (request : RequestHead) : Exchange where
  request
  query := ((request.uri.query.map Text.Utf8.encode).map Text.UrlEncoded.parse).getD []

def path (x : Exchange) : String :=
  x.request.uri.path

def withPathParams (x : Exchange) (pathParams : List (String × String)) : Exchange :=
  { x with pathParams }

def requestHeader (x : Exchange) (name : String) : Option String :=
  x.request.headers.text? name

def allParams (x : Exchange) : List (String × String) :=
  x.pathParams ++ x.query

def param? (x : Exchange) (name : String) : Option String :=
  (x.allParams.find? fun p ↦ p.1 = name).map Prod.snd

def params (x : Exchange) (name : String) : List String :=
  (x.allParams.filter fun p ↦ p.1 = name).map Prod.snd

def setHeader (x : Exchange) (name value : String) : Except Error Exchange := do
  let (name, value) ← headerPair name value
  return { x with headers := x.headers.insert name value }

def appendHeader (x : Exchange) (name value : String) : Except Error Exchange := do
  let (name, value) ← headerPair name value
  return { x with headers := x.headers.append name value }

def finish (x : Exchange) : Exchange :=
  { x with ended := true }

def send (x : Exchange) (body : Bytes) : Exchange :=
  { x with body := some body, ended := true }

def sendWithStatus (x : Exchange) (status : Nat) (body : Bytes) : Exchange :=
  { x with status }.send body

def redirect (x : Exchange) (location : String) : Except Error Exchange := do
  let x ← x.setHeader HeaderName.location.text location
  return { x with status := 302, ended := true }

/-- The value of the first cookie with a name, over all cookie headers that are text. -/
def cookie? (x : Exchange) (name : String) : Option String :=
  ((x.request.headers.getAll .cookie).filterMap HeaderValue.text?).findSome? (Cookie.value? · name)

def announce (x : Exchange) (cookieName id : String) : Exchange :=
  match HeaderValue.parse? (Cookie.announcement cookieName id) with
  | some value => { x with headers := x.headers.append .setCookie value }
  | none => x

def response (x : Exchange) : Response :=
  ⟨x.status, x.headers, .bytes (x.body.getD [])⟩

end Exchange

inductive Thread
  | worker
  | caller
  deriving DecidableEq, Repr

/-- What outlives an exchange: the state of the application, the sessions, the clock, and a supply
of fresh session ids. -/
structure World (σ : Type) where
  app : σ
  sessions : SessionStore
  now : Int
  ids : Nat → String
  issued : Nat := 0
  thread : Thread := .caller

namespace World

variable {σ : Type}

instance : Holds σ (World σ) where
  app := World.app
  setApp a w := { w with app := a }

def create (cookieName : String) (timeout : Nat) (app : σ) (now : Int) (ids : Nat → String) :
    World σ :=
  { app, now, ids, sessions := .create cookieName timeout now }

def startSession (w : World σ) : String × World σ :=
  let id := w.ids w.issued
  (id, { w with sessions := w.sessions.start w.now id, issued := w.issued + 1 })

def adoptSession (w : World σ) (id : String) : World σ :=
  { w with sessions := w.sessions.adopt w.now id }

def findSession (w : World σ) (id : String) : Bool × World σ :=
  let (found, sessions) := w.sessions.find w.now id
  (found, { w with sessions })

def modifySessions (w : World σ) (f : SessionStore → SessionStore) : World σ :=
  { w with sessions := f w.sessions }

def evictSessions (w : World σ) : Nat × World σ :=
  (w.sessions.evicted w.now, w.modifySessions (·.evict w.now))

def later (w : World σ) (ms : Nat) : World σ :=
  { w with now := w.now + ms }

end World

/-- What user code works on: an exchange, and the world that outlives it. -/
structure Scene (σ : Type) where
  exchange : Exchange
  world : World σ

namespace Scene

variable {σ : Type}

instance : Holds σ (Scene σ) where
  app := fun s ↦ s.world.app
  setApp a s := { s with world := { s.world with app := a } }

/-- The id of the live session that the client's cookie names. -/
def presented (s : Scene σ) : Option String × Scene σ :=
  match s.exchange.cookie? s.world.sessions.cookieName with
  | none => (none, s)
  | some id =>
    let (found, world) := s.world.findSession id
    (if found then some id else none, { s with world })

/-- Binds a session to the exchange: the one that the client presents, or a new one, which is
announced. -/
def bindSession (s : Scene σ) : String × Scene σ :=
  match s.presented with
  | (some id, s) => (id, { s with exchange := { s.exchange with session := some id } })
  | (none, s) =>
    let (id, world) := s.world.startSession
    let exchange := s.exchange.announce world.sessions.cookieName id
    (id, { exchange := { exchange with session := some id, startedSession := true }, world })

def session (s : Scene σ) : String × Scene σ :=
  match s.exchange.session with
  | some id => (id, s)
  | none => s.bindSession

/-- The response of an exchange that came to its end; a session that it started is stored now. -/
def conclude (s : Scene σ) : Response × World σ :=
  (s.exchange.response,
    match s.exchange.startedSession, s.exchange.session with
    | true, some id => s.world.adoptSession id
    | _, _ => s.world)

end Scene

/-! ### What user code may do -/

namespace Run

variable {σ α : Type}

def exchange : Run (Scene σ) Exchange :=
  gets Scene.exchange

def modifyExchange (f : Exchange → Exchange) : Run (Scene σ) Unit :=
  modify fun s ↦ { s with exchange := f s.exchange }

def tryExchange (f : Exchange → Except Error Exchange) : Run (Scene σ) Unit := do
  let x ← exchange
  let y ← ofExcept (f x)
  modifyExchange fun _ ↦ y

def session : Run (Scene σ) String :=
  ofState Scene.session

def sessionAttribute (name : String) : Run (Scene σ) (Option Json) := do
  let id ← session
  gets fun s ↦ s.world.sessions.attribute? id name

def sessionIsBlank : Run (Scene σ) Bool := do
  let id ← session
  gets fun s ↦ s.world.sessions.isBlank id

def modifySessions (f : SessionStore → SessionStore) : Run (Scene σ) Unit :=
  modify fun s ↦ { s with world := s.world.modifySessions f }

def setSessionAttribute (name : String) (value : Json) : Run (Scene σ) Unit := do
  let id ← session
  modifySessions fun st ↦ st.setAttribute id name value

def removeSessionAttribute (name : String) : Run (Scene σ) (Option Json) := do
  let old ← sessionAttribute name
  let id ← session
  modifySessions fun st ↦ st.removeAttribute id name
  return old

end Run

abbrev Handler (σ : Type) := Run (Scene σ) Unit

end WebDispatch
