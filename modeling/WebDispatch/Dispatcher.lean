import WebDispatch.Channel.Serving
import WebDispatch.Registry
import WebDispatch.Upgrade
import WebDispatch.Worker

namespace WebDispatch

open Http

variable {σ : Type}

structure RouteEntry (σ : Type) where
  method : Method
  pattern : PathPattern
  predicate : Option (Predicate σ)
  handler : Handler σ

namespace RouteEntry

def captures? (r : RouteEntry σ) (x : Exchange) : Option (List (String × String)) :=
  if r.method = x.request.method then r.pattern.captures? x.path else none

def accepts (r : RouteEntry σ) (x : Exchange) : StateM σ Bool :=
  match r.predicate with
  | none => pure true
  | some p => p x

def describe (r : RouteEntry σ) : String :=
  "RouteEntry \x7b method: " ++ r.method.name ++ ", pattern: " ++ r.pattern.describe ++
    ", predicate: " ++ toString r.predicate.isSome ++ " \x7d"

end RouteEntry

structure Dispatcher (σ : Type) where
  settings : Settings
  routes : List (RouteEntry σ)
  channels : List (ChannelRoute σ)
  serializer : Serializer
  engines : List (Engine σ)

def Registry.dispatcher (r : Registry σ) : Dispatcher σ where
  settings := r.settings
  routes := r.routes.map fun p ↦
    { method := p.method
      pattern := p.pattern
      predicate := p.predicate
      handler := composeChain p.terminal.handler r.wrappers r.handlerWrappers }
  channels := r.channels
  serializer := r.serializer
  engines := r.engines

def Registry.world (r : Registry σ) (app : σ) (now : Int) (ids : Nat → String) : World σ :=
  .create r.settings.sessionCookie r.settings.sessionTimeout app now ids

inductive Dispatched (σ : Type)
  | answered (r : Response)
  | upgraded (route : ChannelRoute σ) (captures : List (String × String))
  | unmatched (r : Request)

namespace Dispatcher

/-- Asks the routes in order and gives the handler of the first that fits. The exchange comes back
with the captures of the last route that was asked. -/
def findRoute (x : Exchange) : List (RouteEntry σ) → StateM σ (Option (Handler σ) × Exchange)
  | [] => pure (none, x)
  | r :: rs =>
    match r.captures? x with
    | none => findRoute x rs
    | some pathParams => do
      let x := x.withPathParams pathParams
      if ← r.accepts x then return (some r.handler, x) else findRoute x rs

def findChannel (path : String) :
    List (ChannelRoute σ) → Option (ChannelRoute σ × List (String × String))
  | [] => none
  | r :: rs =>
    match r.pattern.captures? path with
    | some captures => some (r, captures)
    | none => findChannel path rs

def execute (handler : Handler σ) (s : Scene σ) : Response × World σ :=
  match s.world.thread.run handler s with
  | (.ok (.ok ()), s) => s.conclude
  | (.ok (.error f), s) => (f.response, s.world)
  | (.error e, s) => (Failure.response (.framework e), s.world)

def answer (d : Dispatcher σ) (handler : Handler σ) (x : Exchange) (body : List Chunk)
    (w : World σ) : Response × World σ :=
  match Entity.read d.settings.maxBodyBytes (x.requestHeader HeaderName.contentType.text) body with
  | .error e => (e.response, w)
  | .ok entity => execute handler ⟨{ x with entity }, w⟩

def dispatchToRoute (d : Dispatcher σ) (r : Request) (w : World σ) : Dispatched σ × World σ :=
  match findRoute (.ofRequest r.head) d.routes w.app with
  | ((none, _), app) => (.unmatched r, { w with app })
  | ((some handler, x), app) =>
    let (response, w) := d.answer handler x r.body { w with app }
    (.answered response, w)

def requestedChannel (d : Dispatcher σ) (head : RequestHead) :
    Option (ChannelRoute σ × List (String × String)) :=
  if Upgrade.isRequested head then findChannel head.uri.path d.channels else none

/-- Dispatches a request, given whether its connection can become a channel. -/
def dispatch (d : Dispatcher σ) (isUpgradable : Bool) (r : Request) (w : World σ) :
    Dispatched σ × World σ :=
  match d.requestedChannel r.head with
  | some (route, captures) =>
    match Upgrade.check r.head isUpgradable with
    | .ok () => (.upgraded route captures, w)
    | .error rejection => (.answered rejection.response, w)
  | none => d.dispatchToRoute r w

def orElse (inner : Request → Response) : Dispatched σ → Dispatched σ
  | .unmatched r => .answered (inner r)
  | dispatched => dispatched

def notFound (r : Request) : Response :=
  (Error.notFound r.head.method.name r.head.uri.path).response

/-- The response to a request for the head alone has no body, nor has a successful one to a request
for a tunnel. -/
def hasNoBody (method : Method) (status : Nat) : Bool :=
  method = .head || (method = .connect && 200 ≤ status && status < 300)

def withoutBody (method : Method) : Dispatched σ → Dispatched σ
  | .answered r =>
    .answered (if hasNoBody method r.status then { r with content := .bytes [] } else r)
  | dispatched => dispatched

def route (d : Dispatcher σ) (isUpgradable : Bool) (r : Request) (w : World σ) :
    Dispatched σ × World σ :=
  let (dispatched, w) := d.dispatch isUpgradable r w
  (withoutBody r.head.method (orElse notFound dispatched), w)

def openChannel (d : Dispatcher σ) (id path : String) (captures : List (String × String))
    (app : σ) : Channel σ where
  id
  path
  params := captures
  serializer := d.serializer
  outbox := { capacity := Outbox.defaultCapacity }
  app

def stop (d : Dispatcher σ) : StateM σ Unit :=
  d.engines.forM Engine.cleanup

end Dispatcher

end WebDispatch
