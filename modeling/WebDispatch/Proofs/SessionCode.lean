import Mathlib.Logic.Relation
import WebDispatch.Dispatcher
import WebDispatch.Proofs.Effects
import WebDispatch.Proofs.SessionStore

namespace WebDispatch

open Http

variable {σ α β : Type}

/-- What code may make of the headers of an exchange. -/
def HeaderPolicy : Type :=
  Exchange → Headers → Prop

namespace HeaderPolicy

def free : HeaderPolicy :=
  fun _ _ ↦ True

def Entails (H H' : HeaderPolicy) : Prop :=
  ∀ x headers, H x headers → H' x headers

end HeaderPolicy

variable {H H' : HeaderPolicy}

/-- What may become of an exchange in code that has no say in its request and in its session, and
changes its headers as `H` permits. -/
structure Exchange.Amends (H : HeaderPolicy) (x y : Exchange) : Prop where
  request : y.request = x.request
  session : y.session = x.session
  startedSession : y.startedSession = x.startedSession
  headers : H x y.headers

def Session.rewrite (f : Table Json → Table Json) (s : Session) : Session :=
  { s with attributes := f s.attributes }

namespace Scene

def withExchange (s : Scene σ) (x : Exchange) : Scene σ :=
  { s with exchange := x }

def later (s : Scene σ) (ms : Nat) : Scene σ :=
  { s with world := s.world.later ms }

def rewrite (s : Scene σ) (id : String) (f : Table Json → Table Json) : Scene σ :=
  { s with world := s.world.modifySessions fun st ↦ st.update id (Session.rewrite f) }

inductive Step (H : HeaderPolicy) : Scene σ → Scene σ → Prop
  | app (s : Scene σ) (a : σ) : Step H s (s.withApp a)
  | exchange (s : Scene σ) {x : Exchange} (h : s.exchange.Amends H x) : Step H s (s.withExchange x)
  | wait (s : Scene σ) (ms : Nat) : Step H s (s.later ms)
  | session (s : Scene σ) : Step H s s.session.2
  | write (s : Scene σ) {id : String} (f : Table Json → Table Json)
      (h : s.exchange.session = some id) : Step H s (s.rewrite id f)

def Steps (H : HeaderPolicy) : Scene σ → Scene σ → Prop :=
  Relation.ReflTransGen (Step H)

end Scene

namespace Run

def onExchange (m : Run Exchange α) : Run (Scene σ) α :=
  zoom Scene.exchange (fun x s ↦ s.withExchange x) m

/-- What is left of code when its first part has ended. -/
def proceed (f : α → Run (Scene σ) β) : Outcome α → Run (Scene σ) β
  | .ok a => f a
  | .error e => fail e
  | .panic p => panic p

def endAsValue : Outcome α → Run (Scene σ) (Except Failure α)
  | .ok a => pure (.ok a)
  | .error f => pure (.error f)
  | .panic p => panic p

def replace (f : Exchange → Except Error Exchange) : Run Exchange Unit := fun x ↦
  match f x with
  | .ok y => (.ok (), y)
  | .error e => (.error e, x)

def wait (ms : Nat) : Run (Scene σ) Unit :=
  modify fun s ↦ s.later ms

def readSession (f : String → Option Session → α) : Run (Scene σ) α := do
  let id ← session
  gets fun s ↦ f id (s.world.sessions.held? id)

def rewriteSession (f : Table Json → Table Json) : Run (Scene σ) Unit := do
  let id ← session
  modify fun s ↦ s.rewrite id f

/-- Code that is made of operations on the state of the application, on the exchange, on the clock
and on the session of the exchange. -/
inductive Confined (H : HeaderPolicy) : {α : Type} → Run (Scene σ) α → Prop
  | ofOutcome {α : Type} (o : Outcome α) : Confined H (Run.ofOutcome o)
  | onEnd {α β : Type} {m : Run (Scene σ) α} {k : Outcome α → Run (Scene σ) β}
      (hm : Confined H m) (hk : ∀ s, Confined H (k (m s).1)) : Confined H (m.onEnd k)
  | ofApp {α : Type} (m : StateM σ α) : Confined H (Run.ofApp m)
  | observe {α : Type} (f : Exchange → Int → Thread → α) :
      Confined H (Run.gets fun s ↦ f s.exchange s.world.now s.world.thread)
  | onExchange {α : Type} (m : Run Exchange α) (h : ∀ x : Exchange, x.Amends H (m x).2) :
      Confined H (Run.onExchange m)
  | wait (ms : Nat) : Confined H (Run.wait ms)
  | readSession {α : Type} (f : String → Option Session → α) : Confined H (Run.readSession f)
  | rewriteSession (f : Table Json → Table Json) : Confined H (Run.rewriteSession f)

/-! ### What confined code does to a scene -/

theorem readSession_apply (f : String → Option Session → α) (s : Scene σ) :
    readSession f s =
      (.ok (f s.session.1 (s.session.2.world.sessions.held? s.session.1)), s.session.2) := rfl

theorem rewriteSession_apply (f : Table Json → Table Json) (s : Scene σ) :
    rewriteSession f s = (.ok (), s.session.2.rewrite s.session.1 f) := rfl

end Run

namespace Scene

theorem session_of_bound {s : Scene σ} {id : String} (h : s.exchange.session = some id) :
    s.session = (id, s) := by
  rw [session, h]

theorem session_of_unbound {s : Scene σ} (h : s.exchange.session = none) :
    s.session = s.bindSession := by
  rw [session, h]

theorem exchange_session_session (s : Scene σ) :
    s.session.2.exchange.session = some s.session.1 := by
  cases h : s.exchange.session with
  | some id => rw [session_of_bound h, h]
  | none =>
    rw [session_of_unbound h, bindSession]
    split <;> rfl

end Scene

namespace Run

theorem Confined.mono {m : Run (Scene σ) α} (h : m.Confined H) (hle : H.Entails H') :
    m.Confined H' := by
  induction h with
  | ofOutcome o => exact .ofOutcome o
  | onEnd hm hk ihm ihk => exact .onEnd ihm ihk
  | ofApp m => exact .ofApp m
  | observe f => exact .observe f
  | onExchange m hx =>
    refine .onExchange m fun x ↦ ?_
    have ha := hx x
    exact ⟨ha.request, ha.session, ha.startedSession, hle x _ ha.headers⟩
  | wait ms => exact .wait ms
  | readSession f => exact .readSession f
  | rewriteSession f => exact .rewriteSession f

theorem Confined.steps {m : Run (Scene σ) α} (h : m.Confined H) (s : Scene σ) :
    s.Steps H (m s).2 := by
  induction h generalizing s with
  | ofOutcome o => exact .refl
  | onEnd hm hk ihm ihk => exact (ihm s).trans (ihk s _)
  | ofApp m => exact .single (.app s _)
  | observe f => exact .refl
  | onExchange m hx => exact .single (.exchange s (hx s.exchange))
  | wait ms => exact .single (.wait s ms)
  | readSession f => exact .single (.session s)
  | rewriteSession f =>
    have hw := Scene.Step.write (H := H) s.session.2 f s.exchange_session_session
    exact (Relation.ReflTransGen.single (.session s)).tail hw

/-! ### How confined code is put together -/

namespace Confined

theorem pure (a : α) : Confined H (Pure.pure a : Run (Scene σ) α) :=
  .ofOutcome (.ok a)

theorem fail (f : Failure) : Confined H (Run.fail f : Run (Scene σ) α) :=
  .ofOutcome (.error f)

theorem panic (p : Panic) : Confined H (Run.panic p : Run (Scene σ) α) :=
  .ofOutcome (.panic p)

theorem exchange : Confined H (Run.exchange : Run (Scene σ) Exchange) :=
  .observe fun x _ _ ↦ x

theorem modifyExchange {f : Exchange → Exchange} (h : ∀ x : Exchange, x.Amends H (f x)) :
    Confined H (Run.modifyExchange f : Run (Scene σ) Unit) :=
  .onExchange (fun x ↦ (.ok (), f x)) h

theorem bind_of_ok {m : Run (Scene σ) α} {f : α → Run (Scene σ) β} (hm : Confined H m)
    (hf : ∀ a s t, m s = (.ok a, t) → Confined H (f a)) : Confined H (m >>= f) := by
  have he : m >>= f = m.onEnd (proceed f) := by
    funext s
    rw [bind_apply, Run.onEnd]
    rcases m s with ⟨o, t⟩
    cases o <;> rfl
  rw [he]
  refine .onEnd hm fun s ↦ ?_
  rcases h : m s with ⟨o, t⟩
  cases o with
  | ok a => exact hf a s t h
  | error e => exact fail e
  | panic p => exact panic p

theorem bind {m : Run (Scene σ) α} {f : α → Run (Scene σ) β} (hm : Confined H m)
    (hf : ∀ a, Confined H (f a)) : Confined H (m >>= f) :=
  hm.bind_of_ok fun a _ _ _ ↦ hf a

theorem attempt {m : Run (Scene σ) α} (hm : Confined H m) : Confined H m.attempt := by
  have he : m.attempt = m.onEnd endAsValue := by
    funext s
    rw [Run.attempt, Run.onEnd]
    rcases m s with ⟨o, t⟩
    cases o <;> rfl
  rw [he]
  refine .onEnd hm fun s ↦ ?_
  cases (m s).1 with
  | ok a => exact pure _
  | error f => exact pure _
  | panic p => exact panic p

theorem tryExchange {f : Exchange → Except Error Exchange}
    (hr : ∀ x : Exchange, H x x.headers) (h : ∀ x y : Exchange, f x = .ok y → x.Amends H y) :
    Confined H (Run.tryExchange f : Run (Scene σ) Unit) := by
  have he : (Run.tryExchange f : Run (Scene σ) Unit) = Run.onExchange (replace f) := by
    funext s
    rw [Run.tryExchange, exchange_bind, bind_apply]
    simp only [Run.onExchange, Run.zoom, replace]
    cases f s.exchange <;> rfl
  rw [he]
  refine .onExchange _ fun x ↦ ?_
  unfold replace
  cases hx : f x with
  | ok y => exact h x y hx
  | error e => exact ⟨rfl, rfl, rfl, hr _⟩

theorem session : Confined H (Run.session : Run (Scene σ) String) :=
  .readSession fun id _ ↦ id

theorem sessionAttribute (name : String) :
    Confined H (Run.sessionAttribute name : Run (Scene σ) (Option Json)) :=
  .readSession fun _ s ↦ s.bind fun s ↦ s.attributes.get? name

theorem sessionIsBlank : Confined H (Run.sessionIsBlank : Run (Scene σ) Bool) := by
  have he : (Run.sessionIsBlank : Run (Scene σ) Bool) =
      Run.readSession fun _ s ↦ s.elim true fun s ↦ s.attributes.size == 0 := by
    funext s
    have hb : Run.sessionIsBlank s =
        (.ok (s.session.2.world.sessions.isBlank s.session.1), s.session.2) := rfl
    rw [hb, readSession_apply, SessionStore.isBlank]
    cases s.session.2.world.sessions.held? s.session.1 <;> rfl
  rw [he]
  exact .readSession _

theorem setSessionAttribute (name : String) (value : Json) :
    Confined H (Run.setSessionAttribute name value : Run (Scene σ) Unit) :=
  .rewriteSession fun t ↦ t.insert name value

theorem removeSessionAttribute (name : String) :
    Confined H (Run.removeSessionAttribute name : Run (Scene σ) (Option Json)) := by
  have hr : Confined H (Run.rewriteSession fun t ↦ t.erase name : Run (Scene σ) Unit) :=
    .rewriteSession _
  exact (sessionAttribute name).bind fun old ↦ hr.bind fun _ ↦ pure old

end Confined

end Run

end WebDispatch
