import WebDispatch.Proofs.SessionOrigin

namespace WebDispatch

open Http

variable {σ α : Type} {H : HeaderPolicy}

/-! ### Stores that differ in attributes -/

def Session.bare (s : Session) : Session :=
  s.rewrite fun _ ↦ {}

namespace SessionStore

/-- Stores that differ in the attributes of sessions only, and not in those of the one with the id. -/
structure Agree (id : String) (st st' : SessionStore) : Prop where
  cookieName : st'.cookieName = st.cookieName
  timeout : st'.timeout = st.timeout
  stored : st'.stored = st.stored
  lastSweep : st'.lastSweep = st.lastSweep
  own : st'.held? id = st.held? id
  others : ∀ other, (st'.held? other).map Session.bare = (st.held? other).map Session.bare

variable {id : String} {st st' : SessionStore}

theorem Agree.isStored (h : st.Agree id st') (other : String) :
    st'.isStored other = st.isStored other := by
  rw [SessionStore.isStored, h.stored, SessionStore.isStored]

theorem Agree.isExpired (h : st.Agree id st') (now : Int) (other : String) :
    st'.isExpired now other = st.isExpired now other := by
  have ho := h.others other
  unfold SessionStore.isExpired
  rw [h.timeout]
  cases hx : st.held? other with
  | none =>
    rw [hx, Option.map_none, Option.map_eq_none_iff] at ho
    rw [ho]
  | some x =>
    rw [hx, Option.map_some, Option.map_eq_some_iff] at ho
    obtain ⟨y, hy, hb⟩ := ho
    have ha := congrArg Session.lastAccess hb
    have hlast : y.lastAccess = x.lastAccess := ha
    simp only [hy, Session.isExpired, hlast]

theorem Agree.update (h : st.Agree id st') (other : String) {f : Session → Session}
    (hf : ∀ x y, y.bare = x.bare → (f y).bare = (f x).bare) :
    (st.update other f).Agree id (st'.update other f) where
  cookieName := by rw [cookieName_update, cookieName_update, h.cookieName]
  timeout := by rw [timeout_update, timeout_update, h.timeout]
  stored := by rw [stored_update, stored_update, h.stored]
  lastSweep := by rw [lastSweep_update, lastSweep_update, h.lastSweep]
  own := by
    rw [held?_update, held?_update]
    split
    · rename_i heq
      rw [← heq, h.own]
    · exact h.own
  others third := by
    rw [held?_update, held?_update]
    split
    · have ho := h.others other
      cases hx : st.held? other with
      | none =>
        rw [hx, Option.map_none, Option.map_eq_none_iff] at ho
        rw [ho]
      | some x =>
        rw [hx, Option.map_some, Option.map_eq_some_iff] at ho
        obtain ⟨y, hy, hb⟩ := ho
        rw [hy]
        exact congrArg some (hf x y hb)
    · exact h.others third

theorem Agree.drop (h : st.Agree id st') (other : String) :
    (st.drop other).Agree id (st'.drop other) :=
  ⟨h.cookieName, h.timeout, congrArg (List.filter _) h.stored, h.lastSweep, h.own, h.others⟩

theorem Agree.find (h : st.Agree id st') (now : Int) (other : String) :
    (st'.find now other).1 = (st.find now other).1 ∧
      (st.find now other).2.Agree id (st'.find now other).2 := by
  unfold SessionStore.find
  rw [h.isStored, h.isExpired]
  split
  · split
    · exact ⟨rfl, h.drop other⟩
    · refine ⟨rfl, h.update other fun x y hb ↦ ?_⟩
      exact congrArg (fun s : Session ↦ { s with lastAccess := now }) hb
  · exact ⟨rfl, h⟩

theorem Agree.start (h : st.Agree id st') (now : Int) (other : String) :
    (st.start now other).Agree id (st'.start now other) where
  cookieName := h.cookieName
  timeout := h.timeout
  stored := h.stored
  lastSweep := h.lastSweep
  own := by
    rw [held?_start, held?_start, h.own]
  others third := by
    rw [held?_start, held?_start]
    split
    · rfl
    · exact h.others third

theorem Agree.swept (h : st.Agree id st') (now : Int) :
    (st.swept now).Agree id (st'.swept now) := by
  have hdue : st'.isSweepDue now = st.isSweepDue now := by
    rw [isSweepDue, h.timeout, h.lastSweep, isSweepDue]
  unfold SessionStore.swept
  rw [hdue]
  split
  · have hstored : (st'.evict now).stored = (st.evict now).stored := by
      rw [evict, evict, h.stored]
      simp only [h.isExpired]
    exact ⟨h.cookieName, h.timeout, hstored, rfl, h.own, h.others⟩
  · exact h

theorem Agree.adopt (h : st.Agree id st') (now : Int) (other : String) :
    (st.adopt now other).Agree id (st'.adopt now other) := by
  have hs := h.swept now
  have hstored : (st'.adopt now other).stored = (st.adopt now other).stored := by
    have ha : ∀ st : SessionStore, (st.adopt now other).stored =
        if (st.swept now).isStored other then (st.swept now).stored
        else (st.swept now).stored ++ [other] := fun _ ↦ rfl
    rw [ha, ha, hs.isStored, hs.stored]
  exact ⟨hs.cookieName, hs.timeout, hstored, hs.lastSweep, hs.own, hs.others⟩

end SessionStore

inductive World.Agree (id : String) (w : World σ) : World σ → Prop
  | intro {st : SessionStore} (h : w.sessions.Agree id st) : Agree id w { w with sessions := st }

inductive Scene.Agree (id : String) (s : Scene σ) : Scene σ → Prop
  | intro {st : SessionStore} (h : s.world.sessions.Agree id st) : Agree id s (s.withSessions st)

/-! ### Code in two such scenes -/

namespace Scene

variable {id : String} {s s' : Scene σ}

theorem Agree.exchange_eq (h : s.Agree id s') : s'.exchange = s.exchange := by
  cases h
  rfl

theorem Agree.withExchange (h : s.Agree id s') (x : Exchange) :
    (s.withExchange x).Agree id (s'.withExchange x) := by
  cases h with
  | intro h => exact .intro h

theorem Agree.presented (h : s.Agree id s') :
    s'.presented.1 = s.presented.1 ∧ s.presented.2.Agree id s'.presented.2 := by
  cases h with
  | intro h =>
    simp only [Scene.presented, withSessions, h.cookieName]
    cases s.exchange.cookie? s.world.sessions.cookieName with
    | none => exact ⟨rfl, .intro h⟩
    | some other =>
      obtain ⟨hfound, hst⟩ := h.find s.world.now other
      simp only [World.findSession, hfound]
      exact ⟨rfl, .intro hst⟩

theorem Agree.bindSession (h : s.Agree id s') :
    s'.bindSession.1 = s.bindSession.1 ∧ s.bindSession.2.Agree id s'.bindSession.2 := by
  obtain ⟨ho, ht⟩ := h.presented
  unfold Scene.bindSession
  rcases hp : s.presented with ⟨o, t⟩
  rcases hp' : s'.presented with ⟨o', t'⟩
  rw [hp, hp'] at ho ht
  obtain rfl : o' = o := ho
  replace ht : t.Agree id t' := ht
  cases ht with
  | intro ht =>
    cases o' with
    | some other => exact ⟨rfl, .intro ht⟩
    | none =>
      have hst := ht.start t.world.now (t.world.ids t.world.issued)
      refine ⟨rfl, ?_⟩
      simp only [World.startSession, withSessions, hst.cookieName]
      exact .intro hst

theorem Agree.session (h : s.Agree id s') :
    s'.session.1 = s.session.1 ∧ s.session.2.Agree id s'.session.2 := by
  have hx := h.exchange_eq
  cases hs : s.exchange.session with
  | some other =>
    rw [session_of_bound hs, session_of_bound (hx ▸ hs)]
    exact ⟨rfl, h⟩
  | none =>
    rw [session_of_unbound hs, session_of_unbound (hx ▸ hs)]
    exact h.bindSession

theorem Agree.own (h : s.Agree id s') :
    s'.world.sessions.held? id = s.world.sessions.held? id := by
  cases h with
  | intro h => exact h.own

theorem Agree.rewrite (h : s.Agree id s') (other : String) (f : Table Json → Table Json) :
    (s.rewrite other f).Agree id (s'.rewrite other f) := by
  cases h with
  | intro h => exact .intro (h.update other fun _ _ hb ↦ hb)

theorem Agree.conclude (h : s.Agree id s') :
    s'.conclude.1 = s.conclude.1 ∧ s.conclude.2.Agree id s'.conclude.2 := by
  cases h with
  | intro h =>
    refine ⟨rfl, ?_⟩
    simp only [Scene.conclude, withSessions]
    split
    · exact .intro (h.adopt _ _)
    · exact .intro h

end Scene

/-- Code that is bound to a session, or to none, does the same in two scenes that agree for that
session. -/
theorem Run.Confined.agree {m : Run (Scene σ) α} (h : m.Confined H) {id : String}
    {s s' : Scene σ} (ha : s.Agree id s')
    (hb : ∀ other, (m s).2.exchange.session = some other → other = id) :
    (m s').1 = (m s).1 ∧ (m s).2.Agree id (m s').2 := by
  induction h generalizing s s' with
  | ofOutcome o => exact ⟨rfl, ha⟩
  | @onEnd _ _ m k hm hk ihm ihk =>
    -- What the first part binds is still bound at the end.
    obtain ⟨ho, ht⟩ := ihm ha fun other hother ↦
      hb other (((hk s).steps (m s).2).session_eq_some hother)
    have hi := ihk s ht hb
    simp only [Run.onEnd, ho]
    exact hi
  | ofApp m =>
    cases ha with
    | intro ha => exact ⟨rfl, .intro ha⟩
  | observe f =>
    cases ha with
    | intro ha => exact ⟨rfl, .intro ha⟩
  | onExchange m hx =>
    simp only [Run.onExchange, Run.zoom, ha.exchange_eq]
    exact ⟨trivial, ha.withExchange _⟩
  | wait ms =>
    cases ha with
    | intro ha => exact ⟨rfl, .intro ha⟩
  | readSession f =>
    obtain ⟨hid, ht⟩ := ha.session
    have hown : s.session.1 = id := hb _ s.exchange_session_session
    rw [Run.readSession_apply, Run.readSession_apply, hid, hown, ht.own]
    exact ⟨rfl, ht⟩
  | rewriteSession f =>
    obtain ⟨hid, ht⟩ := ha.session
    rw [Run.rewriteSession_apply, Run.rewriteSession_apply, hid]
    exact ⟨rfl, ht.rewrite _ f⟩

/-! ### Requests -/

namespace Dispatcher

/-- A request that binds no session but the one with the id. -/
def BoundTo (d : Dispatcher σ) (q : Request) (w : World σ) (id : String) : Prop :=
  ∀ i e s o u, d.Enters q w i e s → e.handler s = (o, u) →
    ∀ other, u.exchange.session = some other → other = id

theorem execute_agree {handler : Handler σ} (h : Run.Confined H handler) {id : String}
    {s s' : Scene σ} (ha : s.Agree id s')
    (hb : ∀ other, (handler s).2.exchange.session = some other → other = id) :
    (execute handler s').1 = (execute handler s).1 ∧
      (execute handler s).2.Agree id (execute handler s').2 := by
  obtain ⟨ho, hu⟩ := h.agree ha hb
  rcases hrun : handler s with ⟨o, u⟩
  rcases hrun' : handler s' with ⟨o', u'⟩
  rw [hrun, hrun'] at ho hu
  obtain rfl : o' = o := ho
  by_cases hok : o' = .ok ()
  · subst hok
    rw [execute_of_ok hrun, execute_of_ok hrun']
    exact hu.conclude
  · obtain ⟨p, hp⟩ := exists_told hok
    rw [execute_of_told hrun hp, execute_of_told hrun' hp]
    refine ⟨rfl, ?_⟩
    cases hu with
    | intro hu => exact .intro hu

end Dispatcher

namespace Registry

variable {r : Registry σ} {q : Request} {w : World σ} {id : String}

theorem Confined.dispatch_agree (hr : r.Confined .free) {w' : World σ}
    (h : w.Agree id w') (hb : r.dispatcher.BoundTo q w id) (isUpgradable : Bool) :
    (r.dispatcher.dispatch isUpgradable q w').1 = (r.dispatcher.dispatch isUpgradable q w).1 ∧
      (r.dispatcher.dispatch isUpgradable q w).2.Agree id
        (r.dispatcher.dispatch isUpgradable q w').2 := by
  cases h with
  | @intro st hst =>
    cases hc : r.dispatcher.requestedChannel q.head with
    | some found =>
      simp only [Dispatcher.dispatch, hc]
      split <;> exact ⟨rfl, .intro hst⟩
    | none =>
      rw [Dispatcher.dispatch_of_channel_eq_none hc, Dispatcher.dispatch_of_channel_eq_none hc]
      rcases RouteEntry.selects_or_forall_not_acceptsAt (.ofRequest q.head) r.dispatcher.routes
        w.app with ⟨i, e, c, hs⟩ | hn
      · cases hbody : r.dispatcher.entity q with
        | error err =>
          rw [Dispatcher.dispatchToRoute_of_entity_error hs hbody,
            Dispatcher.dispatchToRoute_of_entity_error (w := { w with sessions := st }) hs hbody]
          exact ⟨rfl, .intro hst⟩
        | ok entity =>
          have he : r.dispatcher.Enters q w i e _ := .intro hc hs hbody
          rw [Dispatcher.dispatchToRoute_of_entity_ok hs hbody,
            Dispatcher.dispatchToRoute_of_entity_ok (w := { w with sessions := st }) hs hbody]
          have hhandler := hr.enters he
          obtain ⟨hres, hw⟩ := Dispatcher.execute_agree hhandler (.intro hst)
            (hb i e _ _ _ he rfl)
          exact ⟨congrArg Dispatched.answered hres, hw⟩
      · rw [Dispatcher.dispatchToRoute_of_forall_not_acceptsAt hn,
          Dispatcher.dispatchToRoute_of_forall_not_acceptsAt (w := { w with sessions := st }) hn]
        exact ⟨rfl, .intro hst⟩

theorem Confined.held?_of_boundTo (hr : r.Confined .free) {w' : World σ}
    (h : r.dispatcher.Leaves q w w') (hb : r.dispatcher.BoundTo q w id) {other : String}
    (hne : other ≠ id) : w'.sessions.held? other = w.sessions.held? other := by
  have hrun : ∀ i e s u o, r.dispatcher.Enters q w i e s → e.handler s = (o, u) →
      u.world.sessions.held? other = w.sessions.held? other := by
    intro i e s u o he hrun
    obtain ⟨a, hw⟩ := he.opens.world
    have ho := (hr.since he hrun).others other fun hs ↦ hne (hb i e s o u he hrun other hs)
    rwa [hw] at ho
  cases h with
  | @answered i e s u he h => exact (u.held?_conclude other).trans (hrun i e s u _ he h)
  | @failed i e s u o he h ho => exact hrun i e s u o he h
  | passed a => rfl

/-- Behind every run that began with an empty store, all ids in the store were generated. The session
that a request gets, wherever in its chain it asks, is the live one that its first cookie of the
configured name tells, or a new one without attributes, and it keeps that. A request that is bound
to one session changes no other, and its response and all that it does depend on the attributes of no
other. -/
theorem sessions_bound_and_isolated (hr : r.Confined .free) {ids : Nat → String}
    (hids : Function.Injective ids) (app : σ) (now : Int) (stimuli : List Stimulus)
    (thread : Thread) :
    let w := { r.dispatcher.run (r.world app now ids) stimuli with thread }
    w.sessions.cookieName = r.settings.sessionCookie ∧
    (∀ id ∈ w.sessions.stored, ∃ n < w.issued, id = ids n) ∧
    (∀ q i e s t, r.dispatcher.Enters q w i e s → s.Steps .free t →
      t.exchange.session = none →
      (∃ x, w.Grants q.head t.world.now t.session.1 x ∧
        t.session.2.world.sessions.held? t.session.1 = some x) ∧
      ∀ u, t.session.2.Steps .free u → u.session = (t.session.1, u)) ∧
    ∀ q id isUpgradable, r.dispatcher.BoundTo q w id →
      (∀ other, other ≠ id →
        (r.dispatcher.dispatch isUpgradable q w).2.sessions.held? other =
          w.sessions.held? other) ∧
      ∀ w', w.Agree id w' →
        (r.dispatcher.dispatch isUpgradable q w').1 =
          (r.dispatcher.dispatch isUpgradable q w).1 ∧
        (r.dispatcher.dispatch isUpgradable q w).2.Agree id
          (r.dispatcher.dispatch isUpgradable q w').2 := by
  intro w
  have hcreate : (r.world app now ids).Generated ids r.settings.sessionCookie :=
    World.generated_create r.settings.sessionTimeout app now
  have hrun := hr.run_generated hcreate stimuli
  have hg : w.Generated ids r.settings.sessionCookie := hrun.congr rfl rfl rfl
  refine ⟨hg.cookieName_eq, ?_, ?_, ?_⟩
  · intro id hm
    obtain ⟨x, hx⟩ := hg.stored id hm
    exact hg.held id x hx
  · intro q i e s t he hsteps ht
    have hsince := hsteps.since he.opens.startedSession
    refine ⟨hsince.grants hg hids he.opens ht, fun u hu ↦ ?_⟩
    exact Scene.session_of_bound (hu.session_eq_some t.exchange_session_session)
  · intro q id isUpgradable hb
    have hleaves := r.dispatcher.dispatch_leaves isUpgradable q w
    exact ⟨fun other hne ↦ hr.held?_of_boundTo hleaves hb hne,
      fun w' h ↦ hr.dispatch_agree h hb isUpgradable⟩

/-! ### Two clients that sign in, one after the other -/

def longerIds (n : Nat) : String :=
  .ofList (List.replicate (n + 1) 'a')

theorem longerIds_injective : Function.Injective longerIds := by
  intro m n h
  have hl := congrArg (fun s ↦ s.toList.length) h
  simp only [longerIds, String.toList_ofList, List.length_replicate] at hl
  omega

theorem single_enters_eq {t : Terminal σ} {w : World σ} {i : Nat} {e : RouteEntry σ} {s : Scene σ}
    (h : (single t).dispatcher.Enters rootRequest w i e s) :
    e.handler = t.handler ∧ s = ⟨.ofRequest rootRequest.head, w⟩ := by
  cases h with
  | @intro c entity channel route body =>
    obtain rfl : i = 0 := by
      have hlt := (List.getElem?_eq_some_iff.1 route.accepts.place).1
      exact Nat.lt_one_iff.1 hlt
    obtain rfl : _ = e := Option.some.inj route.accepts.place
    obtain rfl : [] = c := Option.some.inj route.accepts.path
    obtain rfl : Entity.mk .. = entity := Except.ok.inj body
    exact ⟨rfl, rfl⟩

theorem sessions_bound_and_isolated_of_signIn :
    let r := single (.plain (signIn (.ok .empty)))
    let w := { r.dispatcher.run (r.world () 0 longerIds) [.request .worker true rootRequest] with
      thread := .caller }
    (∀ id ∈ w.sessions.stored, ∃ n < w.issued, id = longerIds n) ∧
      (∃ x, w.Grants rootRequest.head 0 "aa" x) ∧
      (r.dispatcher.dispatch true rootRequest w).2.sessions.attribute? "a" "user" =
        some (.string "ann") := by
  intro r w
  obtain ⟨-, hkeys, hbinding, hisolated⟩ := sessions_bound_and_isolated
    (single_confined (signIn_confined (.ok .empty))) longerIds_injective () 0
    [.request .worker true rootRequest] .caller
  refine ⟨hkeys, ?_, ?_⟩
  · obtain ⟨⟨x, hx, -⟩, -⟩ := hbinding rootRequest 0 _ _ _ (single_enters _ w) .refl rfl
    exact ⟨x, hx⟩
  · have hb : r.dispatcher.BoundTo rootRequest w "aa" := by
      intro i e s o u he hrun other ho
      obtain ⟨hh, rfl⟩ := single_enters_eq he
      rw [hh] at hrun
      obtain rfl : _ = u := congrArg Prod.snd hrun
      exact (Option.some.inj ho).symm
    have hother := (hisolated rootRequest "aa" true hb).1 "a" (by decide)
    rw [SessionStore.attribute?, hother]
    rfl

end Registry

end WebDispatch
