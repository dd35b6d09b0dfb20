import WebDispatch.Proofs.ContentTypes
import WebDispatch.Proofs.UnitOfWork

namespace WebDispatch

open Http

variable {σ : Type}

/-! ### The way out of a chain -/

section

variable {γ : Type} (f : Scene σ → γ)

/-- A view of the scene is left as it is on the way back from an end of the terminal. -/
def KeepsBehind : List (Resume σ) → Outcome Unit × Scene σ → Prop
  | [], _ => True
  | resume :: pending, r => f (resume r.1 r.2).2 = f r.2 ∧ KeepsBehind pending (resume r.1 r.2)

/-- Wrappers of whole handlers take a scene to the one in which they run an inner handler for the last
time, and leave a view as that ends. -/
inductive PassesOn (inner : Handler σ) : List (HandlerWrapper σ) → Scene σ → Scene σ → Prop
  | nil (s : Scene σ) : PassesOn inner [] s s
  | outside {wraps : List (HandlerWrapper σ)} {wrap : HandlerWrapper σ} {s u v : Scene σ}
      (kept : f (wrap (composeChain inner [] wraps) s).2 = f (composeChain inner [] wraps u).2)
      (rest : PassesOn inner wraps u v) : PassesOn inner (wraps ++ [wrap]) s v

variable {f}

theorem ascend_view {pending : List (Resume σ)} {r : Outcome Unit × Scene σ}
    (h : KeepsBehind f pending r) : f (ascend pending r).2 = f r.2 := by
  induction pending generalizing r with
  | nil => rfl
  | cons resume pending ih => exact (ih h.2).trans h.1

theorem PassesOn.view {inner : Handler σ} {wraps : List (HandlerWrapper σ)} {s u : Scene σ}
    (h : PassesOn f inner wraps s u) : f (composeChain inner [] wraps s).2 = f (inner u).2 := by
  induction h with
  | nil s => rfl
  | outside kept _ ih =>
    rw [composeChain, List.foldl_nil, List.foldl_append]
    exact kept.trans ih

theorem composeChain_view {terminal : Handler σ} {wrappers : List (WrapperEntry σ)}
    {wraps : List (HandlerWrapper σ)} {s inside arrival : Scene σ}
    (hwraps : PassesOn f (composeChain terminal wrappers []) wraps s inside)
    (harrival : (approach wrappers [] inside).arrival = some arrival)
    (hback : KeepsBehind f (approach wrappers [] inside).pending (terminal arrival)) :
    f (composeChain terminal wrappers wraps s).2 = f (terminal arrival).2 := by
  have hinner : f (composeChain terminal wrappers [] inside).2 = f (terminal arrival).2 := by
    have happly := composeChain_apply terminal wrappers [] inside
    rw [Descent.finish] at happly
    rw [Descent.arrival] at harrival
    cases hstopped : (approach wrappers [] inside).stopped with
    | some o => rw [hstopped] at harrival; cases harrival
    | none =>
      rw [hstopped] at harrival
      rw [hstopped, Option.some.inj harrival] at happly
      rw [show composeChain terminal wrappers [] inside = _ from happly]
      exact ascend_view hback
  exact hwraps.view.trans hinner

end

/-! ### Content types through a terminal -/

def Scene.types (s : Scene σ) : List HeaderValue :=
  s.exchange.headers.getAll .contentType

namespace Terminal

variable {t : Terminal σ} {s : Scene σ}

def opened (t : Terminal σ) (s : Scene σ) : Scene σ :=
  { s with exchange := putHeaders t.headers s.exchange }

theorem types_opened (t : Terminal σ) (s : Scene σ) :
    (t.opened s).types =
      match t.configured? .contentType with
      | some value => [value]
      | none => s.types :=
  t.getAll_putHeaders s.exchange .contentType

/-- The function of a route leaves the content types of a scene, whatever it is injected and whatever
became of the application. -/
def KeepsTypes (t : Terminal σ) (s : Scene σ) : Prop :=
  ∀ values a, (t.function values (s.withApp a)).2.types = s.types

theorem types_invoke (h : t.KeepsTypes s) : (t.invoke s).2.types = s.types := by
  rcases hi : t.injections.resolve (some s.exchange) s.world.app with ⟨_ | values, a⟩
  · rw [invoke_of_not_injected hi]
    rfl
  · rw [invoke_of_injected hi]
    exact h values a

theorem types_conclude {α : Type} (tx : Transaction σ) (r : Outcome α × Scene σ) :
    (tx.conclude r).2.types = r.2.types := by
  obtain ⟨o, u⟩ := r
  cases o <;> rfl

theorem types_invokeInTransaction (h : t.KeepsTypes s) :
    (t.invokeInTransaction s).2.types = s.types := by
  cases ht : t.transactions with
  | none =>
    simp only [invokeInTransaction, ht]
    exact types_invoke h
  | some transactions =>
    obtain ⟨m, o⟩ := transactions
    rcases hstart : m.start o s.world.app with ⟨_ | tx, a⟩
    · simp only [invokeInTransaction, ht]
      rw [TransactionManager.within_of_not_begun hstart]
      rfl
    · rw [invokeInTransaction_of_begun ht hstart, types_conclude]
      exact types_invoke (s := s.withApp a) fun values b ↦ h values b

theorem getAll_replaceContentType {default : Option HeaderValue} {contentType : String}
    {new : HeaderValue} (h : HeaderValue.parse? contentType = some new) (x : Exchange) :
    (replaceContentType default contentType x).headers.getAll .contentType =
      if default.isSome ∧ (x.headers.getAll .contentType).head? = default then [new]
      else x.headers.getAll .contentType := by
  cases default with
  | none => simp [replaceContentType]
  | some value =>
    simp only [replaceContentType, h]
    by_cases hv : x.headers.get? .contentType = some value
    · rw [if_pos hv, if_pos ⟨rfl, hv⟩, Headers.getAll_insert, if_pos rfl]
    · rw [if_neg hv, if_neg fun hd ↦ hv hd.2]

theorem respond_apply (t : Terminal σ) (answer : Answer) (s : Scene σ) :
    t.respond answer s =
      if answer.isEmpty || s.exchange.ended then (.ok (), s) else t.send answer s := by
  rw [respond, Run.exchange_bind]
  split <;> rfl

theorem send_structured (ht : t.template = none) (v : Json) (s : Scene σ) :
    t.send (.structured v) s =
      match t.serializer.serialize v with
      | .ok text => sendText text { s with
          exchange := replaceContentType t.defaultContentType t.serializer.contentType s.exchange }
      | .error e => (.error e, s) := by
  simp only [send, ht]
  rw [Run.ofExcept_bind]
  cases t.serializer.serialize v <;> rfl

theorem types_respond_structured {v : Json} {text : String} {new : HeaderValue}
    (ht : t.template = none) (hended : s.exchange.ended = false)
    (htext : t.serializer.serialize v = .ok text)
    (hnew : HeaderValue.parse? t.serializer.contentType = some new) :
    (t.respond (.structured v) s).2.types =
      if t.defaultContentType.isSome ∧ s.types.head? = t.defaultContentType then [new]
      else s.types := by
  have hrun : ¬ ((Answer.structured v).isEmpty || s.exchange.ended) = true := by
    rw [hended]
    exact Bool.false_ne_true
  rw [respond_apply, if_neg hrun, send_structured ht, htext]
  exact getAll_replaceContentType hnew s.exchange

theorem types_handler_structured {u x : Scene σ} {v : Json} {text : String} {new : HeaderValue}
    (ha : t.authorize s = (.ok true, u)) (hf : t.KeepsTypes (t.opened u))
    (hr : t.invokeInTransaction (t.opened u) = (.ok (.structured v), x))
    (ht : t.template = none) (hended : x.exchange.ended = false)
    (htext : t.serializer.serialize v = .ok text)
    (hnew : HeaderValue.parse? t.serializer.contentType = some new) :
    (t.handler s).2.types =
      if t.defaultContentType.isSome ∧ (t.opened u).types.head? = t.defaultContentType then [new]
      else (t.opened u).types := by
  have hx : x.types = (t.opened u).types := by
    rw [← types_invokeInTransaction hf, hr]
  have hbind : t.handler s = t.respond (.structured v) x := by
    rw [handler_of_authorized ha]
    exact Run.bind_of_ok hr _
  rw [hbind, types_respond_structured ht hended htext hnew, hx]

theorem types_structured_over_defaults {types : List HeaderValue} (new : HeaderValue)
    (u : Scene σ) (hdefault : t.defaultContentType = types.head?)
    (hconf : t.configured? .contentType = types.getLast?) :
    (if t.defaultContentType.isSome ∧ (t.opened u).types.head? = t.defaultContentType then [new]
      else (t.opened u).types) =
      if types = [] then u.types
      else if types.head? = types.getLast? then [new] else types.getLast?.toList := by
  rw [types_opened, hconf, hdefault]
  by_cases hnil : types = []
  · subst hnil
    rfl
  · obtain ⟨last, hlast⟩ := Option.isSome_iff_exists.1 (List.getLast?_isSome.2 hnil)
    rw [hlast, if_neg hnil]
    by_cases heq : types.head? = some last
    · rw [heq, if_pos rfl]
      exact if_pos ⟨rfl, rfl⟩
    · rw [if_neg heq]
      exact if_neg fun h ↦ heq h.2.symm

end Terminal

/-! ### Courses -/

/-- The course of a request to a route of a registry, and its scenes: as the handler is entered,
behind the wrappers of whole handlers, as the terminal is reached, once its client is let in, and at
the end. Neither the function of the route nor any code behind it writes a content type. -/
structure Registry.Course (r : Registry σ) (q : Request) (w : World σ) (i : Nat)
    (t : Terminal σ) where
  entry : RouteEntry σ
  start : Scene σ
  inside : Scene σ
  arrival : Scene σ
  admitted : Scene σ
  final : Scene σ
  enters : r.dispatcher.Enters q w i entry start
  passes : PassesOn Scene.types (composeChain t.handler r.wrappers []) r.handlerWrappers start inside
  arrives : (approach r.wrappers [] inside).arrival = some arrival
  authorized : t.authorize arrival = (.ok true, admitted)
  function : t.KeepsTypes (t.opened admitted)
  behind : KeepsBehind Scene.types (approach r.wrappers [] inside).pending (t.handler arrival)
  ends : entry.handler start = (.ok (), final)

def Registry.directCourse {r : Registry σ} {q : Request} {w : World σ} {i : Nat} {t : Terminal σ}
    (entry : RouteEntry σ) {start admitted final : Scene σ}
    (enters : r.dispatcher.Enters q w i entry start) (hw : r.wrappers = [])
    (hh : r.handlerWrappers = []) (authorized : t.authorize start = (.ok true, admitted))
    (function : t.KeepsTypes (t.opened admitted)) (ends : entry.handler start = (.ok (), final)) :
    r.Course q w i t where
  entry
  start
  inside := start
  arrival := start
  admitted
  final
  enters
  passes := by rw [hh]; exact .nil start
  arrives := by rw [hw]; rfl
  authorized
  function
  behind := by rw [hw]; trivial
  ends

namespace Registry.Course

variable {r : Registry σ} {q : Request} {w : World σ} {i : Nat} {p : PendingRoute σ}
  {t : Terminal σ}

theorem types_final (hp : r.routes[i]? = some p) (C : r.Course q w i p.terminal) :
    C.final.types = (p.terminal.handler C.arrival).2.types := by
  obtain ⟨p', hp', hhandler⟩ := r.dispatcher_place C.enters.place
  obtain rfl : p = p' := Option.some.inj (hp.symm.trans hp')
  have hends := C.ends
  rw [hhandler] at hends
  rw [← composeChain_view C.passes C.arrives C.behind, hends]

theorem types_start (C : r.Course q w i t) : C.start.types = [] := by
  obtain ⟨entry, start, inside, arrival, admitted, final, enters, -⟩ := C
  cases enters
  rfl

theorem answered (hp : r.routes[i]? = some p) (C : r.Course q w i p.terminal)
    (isUpgradable : Bool) :
    ∃ response, (r.dispatcher.dispatch isUpgradable q w).1 = .answered response ∧
      response.headers.getAll .contentType = (p.terminal.handler C.arrival).2.types := by
  refine ⟨C.final.exchange.response, ?_, C.types_final hp⟩
  rw [Dispatcher.dispatch_of_ok C.enters C.ends]

end Registry.Course

end WebDispatch
