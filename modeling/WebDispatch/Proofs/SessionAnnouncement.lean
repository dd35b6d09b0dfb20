import WebDispatch.Proofs.Authorization
import WebDispatch.Proofs.SessionLifetime

namespace WebDispatch

open Http

variable {σ : Type}

namespace HeaderPolicy

def keepsCookies : HeaderPolicy :=
  fun x headers ↦ headers.getAll .setCookie = x.headers.getAll .setCookie

/-- The cookies for the client are left alone once a session was started. -/
def keepsAnnouncement : HeaderPolicy :=
  fun x headers ↦ x.startedSession = true → keepsCookies x headers

theorem keepsCookies_entails : keepsCookies.Entails keepsAnnouncement :=
  fun _ _ h _ ↦ h

theorem keepsCookies_permitsResponse : keepsCookies.PermitsResponse where
  same _ := rfl
  contentType x value := by
    rw [keepsCookies, Headers.getAll_insert, if_neg (by decide)]

end HeaderPolicy

/-! ### The announcement -/

theorem Exchange.getAll_announce {cookieName id : String} {value : HeaderValue}
    (h : HeaderValue.parse? (Cookie.announcement cookieName id) = some value) (x : Exchange) :
    (x.announce cookieName id).headers.getAll .setCookie =
      x.headers.getAll .setCookie ++ [value] := by
  simp only [announce, h]
  exact Headers.getAll_append ..

namespace Scene

/-- The session that was started is announced, if its cookie is legal in a header. -/
def Announced (s : Scene σ) : Prop :=
  ∀ id value, s.Created id →
    HeaderValue.parse? (Cookie.announcement s.world.sessions.cookieName id) = some value →
    value ∈ s.exchange.headers.getAll .setCookie

theorem bindSession_announced {s : Scene σ} (hb : s.exchange.startedSession = false) :
    s.bindSession.2.Announced := by
  intro id value hc hv
  by_cases hp : ∃ id, s.Presents id
  · -- The session of the client was not started here.
    obtain ⟨other, hp⟩ := hp
    rw [bindSession_of_presents hp] at hc
    have hstarted : s.exchange.startedSession = true := hc.1
    rw [hb] at hstarted
    cases hstarted
  · obtain ⟨st, hst, he⟩ := bindSession_of_not_presents fun id hid ↦ hp ⟨id, hid⟩
    rw [he] at hc hv ⊢
    obtain rfl : s.nextId = id := Option.some.inj hc.2
    have hname : st.cookieName = s.world.sessions.cookieName := hst.cookieName
    replace hv : HeaderValue.parse? (Cookie.announcement st.cookieName s.nextId) = some value := hv
    rw [hname] at hv
    have hmem : value ∈ (s.exchange.announce s.world.sessions.cookieName s.nextId).headers.getAll
        .setCookie := by
      rw [s.exchange.getAll_announce hv]
      exact List.mem_append_right _ (List.mem_singleton_self value)
    exact hmem

theorem Step.announced {s₀ s t : Scene σ} (hs : Step .keepsAnnouncement s t) (h : s₀.Since s)
    (ha : s.Announced) : t.Announced := by
  cases hs with
  | app a => exact ha
  | exchange hx =>
    intro id value hc hv
    have hstarted : s.exchange.startedSession = true := hx.startedSession.symm.trans hc.1
    have hmem := ha id value ⟨hstarted, hx.session.symm.trans hc.2⟩ hv
    have hkept := hx.headers hstarted
    rw [HeaderPolicy.keepsCookies] at hkept
    rwa [← hkept] at hmem
  | wait ms => exact ha
  | session =>
    cases hses : s.exchange.session with
    | some id =>
      rw [session_of_bound hses]
      exact ha
    | none =>
      rw [session_of_unbound hses]
      exact bindSession_announced (h.startedSession_of_unbound hses)
  | write f hid =>
    intro id value hc hv
    refine ha id value hc ?_
    rwa [rewrite, World.modifySessions, SessionStore.cookieName_update] at hv

theorem Steps.announced {s₀ s : Scene σ} (h : s₀.Steps .keepsAnnouncement s)
    (hs : s₀.exchange.startedSession = false) : s.Announced := by
  induction h with
  | refl =>
    intro id value hc
    have hstarted := hc.1
    rw [hs] at hstarted
    cases hstarted
  | tail hsteps hstep ih => exact hstep.announced (Steps.since hsteps hs) ih

theorem Steps.getAll_setCookie {s t : Scene σ} (h : s.Steps .keepsCookies t) {id : String}
    (hs : s.exchange.session = some id) :
    t.exchange.headers.getAll .setCookie = s.exchange.headers.getAll .setCookie := by
  induction h with
  | refl => rfl
  | tail hsteps hstep ih =>
    cases hstep with
    | exchange hx => exact hx.headers.trans ih
    | session =>
      rw [session_of_bound (Steps.session_eq_some hsteps hs)]
      exact ih
    | _ => exact ih

end Scene

/-! ### The headers of a route -/

namespace Terminal

variable {t : Terminal σ}

/-- A client that is let in with a session that was started before meets a route without a cookie of
its own. -/
def SparesAnnouncement (t : Terminal σ) (s : Scene σ) : Prop :=
  ∀ u, t.authorize s = (.ok true, u) → u.exchange.startedSession = true →
    t.configured? .setCookie = none

def putSparing (t : Terminal σ) (x : Exchange) : Bool × Exchange :=
  if x.startedSession && (t.configured? .setCookie).isSome then (false, x)
  else (true, putHeaders t.headers x)

def sparing (t : Terminal σ) : Run (Scene σ) Unit := do
  if ← t.authorize then
    if ← Run.onExchange fun x ↦ (.ok (t.putSparing x).1, (t.putSparing x).2) then
      t.respond (← t.invokeInTransaction)

theorem handler_eq_sparing {s : Scene σ} (h : t.SparesAnnouncement s) :
    t.handler s = t.sparing s := by
  unfold sparing
  rcases ha : t.authorize s with ⟨o, u⟩
  cases o with
  | ok isIn =>
    rw [Run.bind_of_ok ha]
    cases isIn with
    | false => exact handler_of_unauthorized ha
    | true =>
      have hput : t.putSparing u.exchange = (true, putHeaders t.headers u.exchange) := by
        refine if_neg fun hboth ↦ ?_
        obtain ⟨hstarted, hsome⟩ := (Bool.and_eq_true ..).mp hboth
        rw [h u ha hstarted] at hsome
        cases hsome
      have hrun : Run.onExchange (fun x ↦ (.ok (t.putSparing x).1, (t.putSparing x).2)) u =
          (.ok true, u.withExchange (putHeaders t.headers u.exchange)) := by
        simp only [Run.onExchange, Run.zoom, hput]
      rw [handler_of_authorized ha, if_pos rfl, Run.bind_of_ok hrun, if_pos rfl]
      rfl
  | error f => rw [handler, Run.bind_of_error ha, Run.bind_of_error ha]
  | panic p => rw [handler, Run.bind_of_panic ha, Run.bind_of_panic ha]

theorem Confined.sparing (h : t.Confined .keepsCookies) :
    Run.Confined .keepsAnnouncement t.sparing := by
  have hp := HeaderPolicy.keepsCookies_permitsResponse
  have hle := HeaderPolicy.keepsCookies_entails
  refine ((h.authorize hp).mono hle).bind fun isIn ↦ ?_
  cases isIn with
  | false => exact .pure ()
  | true =>
    refine Run.Confined.bind (.onExchange _ fun x ↦ ?_) fun put ↦ ?_
    · unfold putSparing
      split
      · exact ⟨rfl, rfl, rfl, fun _ ↦ rfl⟩
      · rename_i hboth
        refine ⟨rfl, rfl, rfl, fun hstarted ↦ (t.getAll_putHeaders x _).trans ?_⟩
        have hnone : t.configured? .setCookie = none := by
          cases hc : t.configured? .setCookie with
          | none => rfl
          | some value =>
            rw [hstarted, hc] at hboth
            exact absurd rfl hboth
        rw [hnone]
    · cases put with
      | false => exact .pure ()
      | true => exact (h.invokeInTransaction.bind (respond_confined hp)).mono hle

end Terminal

namespace Registry

variable {r : Registry σ}

/-- A session that is stored with a response is announced in it, unless the terminal of the route was
reached with the session already started and put a cookie of the route in the place of the
announcement. Then only that cookie is left when the terminal ends. -/
theorem session_announced_unless_replaced (hr : r.Confined .keepsCookies) {i : Nat}
    {p : PendingRoute σ} (hp : r.routes[i]? = some p) :
    (∀ q w e s u id value isUpgradable,
      r.ReachesWithin q w i p.terminal.SparesAnnouncement → r.dispatcher.Enters q w i e s →
      e.handler s = (.ok (), u) → u.Created id →
      HeaderValue.parse? (Cookie.announcement w.sessions.cookieName id) = some value →
      id ∈ (r.dispatcher.dispatch isUpgradable q w).2.sessions.stored ∧
      ∃ response, (r.dispatcher.dispatch isUpgradable q w).1 = .answered response ∧
        value ∈ response.headers.getAll .setCookie) ∧
    ∀ v v' v'' o id value, p.terminal.authorize v = (.ok true, v') →
      v'.exchange.session = some id → p.terminal.configured? .setCookie = some value →
      p.terminal.handler v = (o, v'') → v''.exchange.headers.getAll .setCookie = [value] := by
  have ht := hr.terminals p (List.mem_of_getElem? hp)
  constructor
  · intro q w e s u id value isUpgradable hreach he h hc hv
    obtain ⟨p', hp', hh⟩ := r.dispatcher_place he.place
    obtain rfl : p = p' := Option.some.inj (hp.symm.trans hp')
    -- The request cannot tell the terminal from the one that stops short of replacing.
    have hchain := hreach e s he _ _ fun v hspares ↦ p.terminal.handler_eq_sparing hspares
    have hsteps := (hr.chain HeaderPolicy.keepsCookies_entails ht.sparing).steps s
    rw [← hchain, ← hh, h] at hsteps
    have hs := he.opens.startedSession
    have hname : u.world.sessions.cookieName = w.sessions.cookieName := by
      obtain ⟨a, hw⟩ := he.opens.world
      rw [(hsteps.since hs).cookieName, hw]
    rw [← hname] at hv
    rw [Dispatcher.dispatch_of_ok he h]
    exact ⟨Scene.mem_stored_conclude_of_created hc, u.exchange.response, rfl,
      hsteps.announced hs id value hc hv⟩
  · intro v v' v'' o id value ha hses hconf hrun
    -- All that runs behind the headers of the route leaves the cookies alone.
    have hrest : Run.Confined .keepsCookies
        (p.terminal.invokeInTransaction >>= p.terminal.respond) :=
      ht.invokeInTransaction.bind
        (Terminal.respond_confined HeaderPolicy.keepsCookies_permitsResponse)
    have hsteps := hrest.steps (v'.withExchange (Terminal.putHeaders p.terminal.headers v'.exchange))
    rw [Terminal.handler_of_authorized ha] at hrun
    have hend : (p.terminal.invokeInTransaction >>= p.terminal.respond)
        (v'.withExchange (Terminal.putHeaders p.terminal.headers v'.exchange)) = (o, v'') := hrun
    rw [hend] at hsteps
    have hall := (hsteps.getAll_setCookie hses).trans (p.terminal.getAll_putHeaders v'.exchange _)
    rwa [hconf] at hall

/-! ### A route that keeps a cookie of its own -/

def themed : Terminal Unit :=
  { Terminal.plain (signIn (.ok .empty)) with
    headers := [(.setCookie, ⟨Text.Utf8.encode "theme=dark"⟩)] }

theorem themed_confined {H : HeaderPolicy} : themed.Confined H :=
  ⟨(signIn_confined _).function, (signIn_confined (.ok .empty)).authenticator⟩

def sessionCookie : HeaderValue :=
  ⟨Text.Utf8.encode "SWITCHYARDSESSION=s1; Path=/; HttpOnly"⟩

theorem parse?_announcement :
    HeaderValue.parse? (Cookie.announcement "SWITCHYARDSESSION" "s1") = some sessionCookie := by
  decide

theorem session_announced_of_themed :
    let w := (single themed).world () 0 fun _ ↦ "s1"
    ∃ response, ((single themed).dispatcher.dispatch true rootRequest w).1 = .answered response ∧
      sessionCookie ∈ response.headers.getAll .setCookie := by
  intro w
  obtain ⟨hannounced, -⟩ :=
    session_announced_unless_replaced (single_confined themed_confined) (i := 0) rfl
  have hreach : (single themed).ReachesWithin rootRequest w 0 themed.SparesAnnouncement := by
    have hnone : (single themed).handlerWrappers = [].map Enclosure.wrap := rfl
    refine (reachesWithin_reaches hnone rootRequest w 0).mono ?_
    rintro s ⟨e, u, he, hs⟩ v ha hstarted
    obtain rfl : u = s := Option.some.inj hs
    obtain rfl : u = v := congrArg Prod.snd ha
    rw [he.opens.startedSession] at hstarted
    cases hstarted
  obtain ⟨-, hresponse⟩ := hannounced rootRequest w _ _ _ "s1" sessionCookie true hreach
    (single_enters _ w) rfl ⟨rfl, rfl⟩ parse?_announcement
  exact hresponse

def signingIn : WrapperEntry Unit where
  predicate := none
  injections := ⟨[], []⟩
  function _ := do
    Run.setSessionAttribute "user" (.string "ann")
    return .through

theorem signingIn_confined {H : HeaderPolicy} : signingIn.Confined H where
  function _ := (Run.Confined.setSessionAttribute _ _).bind fun _ ↦ .pure _
  resume values s resume t h := by
    cases Outcome.ok.inj (congrArg Prod.fst h)
    intro o
    cases o <;> exact .ofOutcome _

def themedBehindSignIn : Registry Unit :=
  { single themed with wrappers := [signingIn] }

theorem themedBehindSignIn_confined {H : HeaderPolicy} : themedBehindSignIn.Confined H :=
  { single_confined themed_confined with
    wrappers := List.forall_mem_singleton.2 signingIn_confined }

theorem session_not_announced_of_themed :
    let w := themedBehindSignIn.world () 0 fun _ ↦ "s1"
    let dispatched := themedBehindSignIn.dispatcher.dispatch true rootRequest w
    themedBehindSignIn.Confined .keepsCookies ∧
      HeaderValue.parse? (Cookie.announcement w.sessions.cookieName "s1") = some sessionCookie ∧
      "s1" ∈ dispatched.2.sessions.stored ∧
      ∃ response, dispatched.1 = .answered response ∧
        sessionCookie ∉ response.headers.getAll .setCookie := by
  intro w dispatched
  obtain ⟨u, hrun, hc, hlost⟩ : ∃ u : Scene Unit,
      composeChain themed.handler [signingIn] [] ⟨.ofRequest rootRequest.head, w⟩ = (.ok (), u) ∧
      u.Created "s1" ∧ sessionCookie ∉ u.exchange.headers.getAll .setCookie :=
    ⟨_, rfl, ⟨rfl, rfl⟩, by decide +kernel⟩
  have hd : dispatched = (.answered u.exchange.response, u.conclude.2) :=
    Dispatcher.dispatch_of_ok (wrapped_enters _ _ w) hrun true
  rw [hd]
  exact ⟨themedBehindSignIn_confined, parse?_announcement,
    Scene.mem_stored_conclude_of_created hc, u.exchange.response, rfl, hlost⟩

end Registry

end WebDispatch
