import WebDispatch.Proofs.Authorization
import WebDispatch.Proofs.Requests
import WebDispatch.Proofs.UnitOfWork

namespace WebDispatch

open Http

variable {σ : Type}

/-- The authenticator answers in a scene, and on that answer the roles keep the client out. -/
def KeptOut (auth : Authenticator σ) (names : List String) (s : Scene σ) : Prop :=
  ∃ answer u, auth s = (.ok answer, u) ∧ answer.Denied names

/-- The roles of a route are checked before anything else of it happens. A client who is kept out gets
an ended exchange and nothing more, and the whole request goes as with any other terminal behind the
same roles and authenticator. A principal who is let in has the headers of the route in the response,
each name with its last value, and the function of the route run for it. -/
theorem Registry.roles_gate (r : Registry σ) {i : Nat} {p : PendingRoute σ}
    (hp : r.routes[i]? = some p) {names : List String} (hroles : p.terminal.roles = .ofList names)
    (hne : names ≠ []) {auth : Authenticator σ} (hauth : p.terminal.authenticator = some auth) :
    (∀ s u answer, auth s = (.ok answer, u) → answer.Denied names →
      p.terminal.handler s = (.ok (), { u with exchange := answer.closed u.exchange }) ∧
      (answer.closed u.exchange).ended = true ∧
      (answer.closed u.exchange).status = if answer = .refused then u.exchange.status else 403) ∧
    (∀ t : Terminal σ, t.roles = p.terminal.roles → t.authenticator = p.terminal.authenticator →
      (∀ s, KeptOut auth names s → t.handler s = p.terminal.handler s) ∧
      (∀ isUpgradable q w C, r.ReachesWithin q w i C → (∀ s, C s → KeptOut auth names s) →
        (r.withTerminal i t).dispatcher.dispatch isUpgradable q w =
          r.dispatcher.dispatch isUpgradable q w) ∧
      (∀ isUpgradable q w enclosures, r.handlerWrappers = enclosures.map Enclosure.wrap →
        (∀ s, r.Reaches enclosures q w i s → KeptOut auth names s) →
        (r.withTerminal i t).dispatcher.dispatch isUpgradable q w =
          r.dispatcher.dispatch isUpgradable q w)) ∧
    ∀ s u principal, auth s = (.ok (.authenticated (some principal)), u) →
      (Roles.anyone ∈ names ∨ ∃ role ∈ names, principal.hasRole role = true) →
      let x := Terminal.putHeaders p.terminal.headers { u.exchange with principal }
      x = { u.exchange with principal, headers := x.headers } ∧
      (∀ name, x.headers.getAll name =
        match (p.terminal.headers.filter fun h ↦ h.1 = name).getLast? with
        | some h => [h.2]
        | none => u.exchange.headers.getAll name) ∧
      p.terminal.handler s =
        (p.terminal.invokeInTransaction >>= p.terminal.respond) ⟨x, u.world⟩ ∧
      (p.terminal.transactions = none → ∀ values a,
        p.terminal.injections.resolve (some x) u.world.app = (.ok values, a) →
        p.terminal.invokeInTransaction ⟨x, u.world⟩ =
          p.terminal.function values (Scene.withApp ⟨x, u.world⟩ a)) ∧
      ∀ m o tx b, p.terminal.transactions = some (m, o) → m.start o u.world.app = (.ok tx, b) →
        ∀ values a, p.terminal.injections.resolve (some x) b = (.ok values, a) →
        p.terminal.invokeInTransaction ⟨x, u.world⟩ =
          tx.conclude (p.terminal.function values (Scene.withApp ⟨x, u.world⟩ a)) := by
  have hsame (t : Terminal σ) (hr : t.roles = p.terminal.roles)
      (ha : t.authenticator = p.terminal.authenticator) (s : Scene σ) (hk : KeptOut auth names s) :
      t.handler s = p.terminal.handler s := by
    obtain ⟨answer, u, h, hd⟩ := hk
    rw [Terminal.handler_of_denied (hr.trans hroles) hne (ha.trans hauth) h hd,
      Terminal.handler_of_denied hroles hne hauth h hd]
  refine ⟨fun s u answer h hd ↦ ⟨Terminal.handler_of_denied hroles hne hauth h hd, ?_⟩,
    fun t hr ha ↦ ⟨hsame t hr ha, fun isUpgradable q w C hC hk ↦ ?_,
      fun isUpgradable q w enclosures henc hk ↦ ?_⟩,
    fun s u principal h hpr ↦ ⟨rfl, fun name ↦ ?_,
      Terminal.handler_of_admitted hroles hne hauth h hpr, ?_, ?_⟩⟩
  · cases answer <;> exact ⟨rfl, rfl⟩
  · exact dispatch_withTerminal hp hC (fun s hs ↦ hsame t hr ha s (hk s hs)) isUpgradable
  · exact dispatch_withTerminal hp (reachesWithin_reaches henc q w i)
      (fun s hs ↦ hsame t hr ha s (hk s hs)) isUpgradable
  · refine (p.terminal.getAll_putHeaders _ name).trans ?_
    rw [Terminal.configured?]
    cases (p.terminal.headers.filter fun h ↦ h.1 = name).getLast? <;> rfl
  · intro ht values a hi
    simp only [Terminal.invokeInTransaction, ht]
    exact Terminal.invoke_of_injected hi
  · intro m o tx b ht hm values a hi
    exact Terminal.invokeInTransaction_of_injected ht hm hi

/-! ### A route for administrators, of whom there are none -/

def Terminal.locked (function : RouteFunction Unit) : Terminal Unit :=
  { Terminal.plain function with
    roles := .ofList ["admin"]
    authenticator := some (BasicAuthenticator.toAuthenticator ⟨"files", {}⟩) }

theorem Registry.roles_gate_of_no_credentials :
    (∃ s, (single (.locked fun _ ↦ pure .empty)).Reaches [] rootRequest (freshWorld ()) 0 s) ∧
    ((single (.locked fun _ ↦ pure .empty)).withTerminal 0
        (.locked fun _ ↦ Run.panic .silent)).dispatcher.dispatch true rootRequest (freshWorld ()) =
      (single (.locked fun _ ↦ pure .empty)).dispatcher.dispatch true rootRequest (freshWorld ()) ∧
    ((single (.locked fun _ ↦ pure .empty)).dispatcher.dispatch true rootRequest
        (freshWorld ())).1 = .answered ⟨401, Headers.insert {} .wwwAuthenticate
        ⟨Text.Utf8.encode "Basic realm=\"files\""⟩, .bytes []⟩ := by
  refine ⟨⟨_, single_reaches _ (freshWorld ())⟩, ?_, rfl⟩
  obtain ⟨-, hgate, -⟩ := roles_gate (i := 0) (single (.locked fun _ ↦ pure .empty)) rfl rfl
    (List.cons_ne_nil "admin" []) rfl
  refine (hgate _ rfl rfl).2.2 true rootRequest (freshWorld ()) [] rfl ?_
  rintro s ⟨e, u, he, hs⟩
  obtain rfl : u = s := Option.some.inj hs
  cases he with
  | intro => exact ⟨.refused, _, rfl, .refused⟩

end WebDispatch
