import WebDispatch.Proofs.FirstMatch
import WebDispatch.Proofs.Interpreter

namespace WebDispatch

open Http

variable {σ : Type}

namespace RouteEntry

def bare (r : RouteEntry σ) : RouteEntry σ :=
  { r with handler := default }

theorem questions_map_bare (x : Exchange) (routes : List (RouteEntry σ)) :
    questions x (routes.map bare) = questions x routes := by
  rw [questions, List.filterMap_map]
  rfl

theorem exists_of_mem_questions {x : Exchange} {routes : List (RouteEntry σ)}
    {q : Predicate σ × Exchange} (h : q ∈ questions x routes) :
    ∃ r ∈ routes, r.predicate = some q.1 := by
  obtain ⟨r, hr, hq⟩ := List.mem_filterMap.1 h
  refine ⟨r, hr, ?_⟩
  unfold question? at hq
  split at hq
  · rename_i p c hp hc
    obtain rfl : (p, x.withPathParams c) = q := Option.some.inj hq
    exact hp
  · cases hq

theorem ask_keeps {ε : Type} {log : σ → List ε} {qs : List (Predicate σ × Exchange)}
    (h : ∀ q ∈ qs, ∀ x a, log (q.1 x a).2 = log a) (a : σ) : log (ask qs a) = log a := by
  induction qs generalizing a with
  | nil => rfl
  | cons q qs ih =>
    have hi := ih (fun q' hq' ↦ h q' (List.mem_cons_of_mem _ hq')) (q.1 q.2 a).2
    exact hi.trans (h q List.mem_cons_self q.2 a)

variable {routes routes' : List (RouteEntry σ)}

theorem questions_congr (h : routes.map bare = routes'.map bare) (x : Exchange) :
    questions x routes = questions x routes' := by
  rw [← questions_map_bare, h, questions_map_bare]

theorem map_bare_take (h : routes.map bare = routes'.map bare) (i : Nat) :
    (routes.take i).map bare = (routes'.take i).map bare := by
  rw [List.map_take, h, List.map_take]

theorem AcceptsAt.congr (h : routes.map bare = routes'.map bare) {x : Exchange} {a : σ} {i : Nat}
    {r : RouteEntry σ} {c : List (String × String)} (ha : AcceptsAt x routes a i r c) :
    ∃ r', AcceptsAt x routes' a i r' c := by
  have hplace : (routes'.map bare)[i]? = some r.bare := by
    rw [← h, List.getElem?_map, ha.place]
    rfl
  obtain ⟨r', hr', hb⟩ : ∃ r', routes'[i]? = some r' ∧ bare r' = r.bare := by
    simpa using hplace
  have hm : r'.method = r.method := congrArg (·.method) hb
  have hp : r'.pattern = r.pattern := congrArg (·.pattern) hb
  have hq : r'.predicate = r.predicate := congrArg (·.predicate) hb
  refine ⟨r', hr', hm.trans ha.method, by rw [hp]; exact ha.path, ?_⟩
  rw [hq, ← questions_congr (map_bare_take h i)]
  exact ha.predicate

theorem Selects.congr (h : routes.map bare = routes'.map bare) {x : Exchange} {a : σ} {i : Nat}
    {r : RouteEntry σ} {c : List (String × String)} (hs : Selects x routes a i r c) :
    ∃ r', Selects x routes' a i r' c := by
  obtain ⟨r', hr'⟩ := hs.accepts.congr h
  refine ⟨r', hr', fun j hj r₁ c₁ ha ↦ ?_⟩
  obtain ⟨r₂, hr₂⟩ := ha.congr h.symm
  exact hs.first j hj r₂ c₁ hr₂

theorem selects_or_forall_not_acceptsAt (x : Exchange) (routes : List (RouteEntry σ)) (a : σ) :
    (∃ i r c, Selects x routes a i r c) ∨ ∀ i r c, ¬ AcceptsAt x routes a i r c := by
  have hf := Dispatcher.findRoute_finds routes x a
  generalize Dispatcher.findRoute x routes a = result at hf
  cases hf with
  | @selected i r c h => exact .inl ⟨i, r, c, h⟩
  | unmatched h y => exact .inr h

end RouteEntry

namespace Dispatcher

open RouteEntry

def entity (d : Dispatcher σ) (q : Request) : Except Error Entity :=
  Entity.read d.settings.maxBodyBytes
    ((Exchange.ofRequest q.head).requestHeader HeaderName.contentType.text) q.body

section

variable {d : Dispatcher σ} {q : Request} {w : World σ} {i : Nat} {r : RouteEntry σ}
  {c : List (String × String)}

theorem dispatchToRoute_of_entity_error
    (h : Selects (.ofRequest q.head) d.routes w.app i r c) {e : Error} (he : d.entity q = .error e) :
    d.dispatchToRoute q w = (.answered e.response,
      { w with app := ask (questions (.ofRequest q.head) (d.routes.take (i + 1))) w.app }) := by
  have hx : ((Exchange.ofRequest q.head).withPathParams c).requestHeader
      HeaderName.contentType.text =
        (Exchange.ofRequest q.head).requestHeader HeaderName.contentType.text := rfl
  rw [entity, ← hx] at he
  simp only [dispatchToRoute_of_selects h, he]

theorem dispatchToRoute_of_entity_ok
    (h : Selects (.ofRequest q.head) d.routes w.app i r c) {entity : Entity}
    (he : d.entity q = .ok entity) :
    let s : Scene σ := ⟨{ (Exchange.ofRequest q.head).withPathParams c with entity },
      { w with app := ask (questions (.ofRequest q.head) (d.routes.take (i + 1))) w.app }⟩
    d.dispatchToRoute q w = (.answered (execute r.handler s).1, (execute r.handler s).2) := by
  have hx : ((Exchange.ofRequest q.head).withPathParams c).requestHeader
      HeaderName.contentType.text =
        (Exchange.ofRequest q.head).requestHeader HeaderName.contentType.text := rfl
  rw [Dispatcher.entity, ← hx] at he
  simp only [dispatchToRoute_of_selects h, he]

theorem dispatch_of_channel_eq_none (h : d.requestedChannel q.head = none) (isUpgradable : Bool)
    (w : World σ) : d.dispatch isUpgradable q w = d.dispatchToRoute q w := by
  rw [dispatch, h]

end

theorem execute_app (handler : Handler σ) (s : Scene σ) :
    (execute handler s).2.app = (handler s).2.world.app := by
  rw [execute, Thread.run_eq_contained, Run.contained]
  rcases handler s with ⟨o, u⟩
  cases o with
  | ok a =>
    simp only [Scene.conclude]
    split <;> rfl
  | error f => rfl
  | panic p => rfl

/-- The scene in which the handler of a route at a place of the table is entered for a request. -/
inductive Enters (d : Dispatcher σ) (q : Request) (w : World σ) (i : Nat) (r : RouteEntry σ) :
    Scene σ → Prop
  | intro {c : List (String × String)} {entity : Entity}
      (channel : d.requestedChannel q.head = none)
      (route : Selects (.ofRequest q.head) d.routes w.app i r c) (body : d.entity q = .ok entity) :
      Enters d q w i r ⟨{ (Exchange.ofRequest q.head).withPathParams c with entity },
        { w with app := ask (questions (.ofRequest q.head) (d.routes.take (i + 1))) w.app }⟩

theorem Enters.place {d : Dispatcher σ} {q : Request} {w : World σ} {i : Nat} {r : RouteEntry σ}
    {s : Scene σ} (h : d.Enters q w i r s) : d.routes[i]? = some r := by
  cases h with
  | intro channel route body => exact route.accepts.place

theorem dispatch_of_enters {d : Dispatcher σ} {q : Request} {w : World σ} {i : Nat}
    {r : RouteEntry σ} {s : Scene σ} (h : d.Enters q w i r s) (isUpgradable : Bool) :
    d.dispatch isUpgradable q w =
      (.answered (execute r.handler s).1, (execute r.handler s).2) := by
  cases h with
  | intro channel route body =>
    rw [dispatch_of_channel_eq_none channel]
    exact dispatchToRoute_of_entity_ok route body

theorem dispatch_of_forall_not_enters {d : Dispatcher σ} {q : Request} {w : World σ}
    (h : ∀ i r s, ¬ d.Enters q w i r s) (isUpgradable : Bool) :
    ∃ i, (d.dispatch isUpgradable q w).2 =
      { w with app := ask (questions (.ofRequest q.head) (d.routes.take i)) w.app } := by
  cases hc : d.requestedChannel q.head with
  | some found =>
    refine ⟨0, ?_⟩
    rw [dispatch, hc]
    simp only
    split <;> rfl
  | none =>
    rw [dispatch_of_channel_eq_none hc]
    rcases selects_or_forall_not_acceptsAt (.ofRequest q.head) d.routes w.app with
      ⟨i, r, c, hs⟩ | hn
    · refine ⟨i + 1, ?_⟩
      cases hb : d.entity q with
      | error e => rw [dispatchToRoute_of_entity_error hs hb]
      | ok entity => exact absurd (.intro hc hs hb) (h i r _)
    · refine ⟨d.routes.length, ?_⟩
      rw [dispatchToRoute_of_forall_not_acceptsAt hn, List.take_length]

/-- Dispatchers that differ in handlers only treat a request alike if it enters no handler in a scene
where these differ. -/
theorem dispatch_congr {d d' : Dispatcher σ} (hset : d.settings = d'.settings)
    (hchan : d.channels = d'.channels) (hroutes : d.routes.map bare = d'.routes.map bare)
    {q : Request} {w : World σ}
    (h : ∀ i r r' s, d.Enters q w i r s → d'.routes[i]? = some r' → r.handler s = r'.handler s)
    (isUpgradable : Bool) : d.dispatch isUpgradable q w = d'.dispatch isUpgradable q w := by
  have hreq : d.requestedChannel q.head = d'.requestedChannel q.head := by
    rw [requestedChannel, hchan, requestedChannel]
  cases hc : d.requestedChannel q.head with
  | some found => rw [dispatch, dispatch, ← hreq, hc]
  | none =>
    rw [dispatch_of_channel_eq_none hc, dispatch_of_channel_eq_none (hreq ▸ hc)]
    rcases selects_or_forall_not_acceptsAt (.ofRequest q.head) d.routes w.app with
      ⟨i, r, c, hs⟩ | hn
    · obtain ⟨r', hs'⟩ := hs.congr hroutes
      have hent : d.entity q = d'.entity q := by rw [entity, hset, entity]
      have hask := questions_congr (map_bare_take hroutes (i + 1)) (.ofRequest q.head)
      cases hb : d.entity q with
      | error e =>
        rw [dispatchToRoute_of_entity_error hs hb,
          dispatchToRoute_of_entity_error hs' (hent ▸ hb), hask]
      | ok entity =>
        have he := h i r r' _ (.intro hc hs hb) hs'.accepts.place
        rw [dispatchToRoute_of_entity_ok hs hb, dispatchToRoute_of_entity_ok hs' (hent ▸ hb),
          ← hask, execute, execute, Thread.run_eq_contained, Run.contained, Thread.run_eq_contained,
          Run.contained, he]
    · have hn' : ∀ i r c, ¬ AcceptsAt (.ofRequest q.head) d'.routes w.app i r c := by
        intro i r c ha
        obtain ⟨r', ha'⟩ := ha.congr hroutes.symm
        exact hn i r' c ha'
      rw [dispatchToRoute_of_forall_not_acceptsAt hn, dispatchToRoute_of_forall_not_acceptsAt hn',
        questions_congr hroutes]

end Dispatcher

namespace Registry

/-- The scene in which a request meets the terminal of the route at a place. -/
def Reaches (r : Registry σ) (enclosures : List (Enclosure σ)) (q : Request) (w : World σ)
    (i : Nat) (s : Scene σ) : Prop :=
  ∃ e u, r.dispatcher.Enters q w i e u ∧ (approach r.wrappers enclosures u).arrival = some s

/-- A request depends on the terminal of the route at a place in scenes of `C` only. -/
def ReachesWithin (r : Registry σ) (q : Request) (w : World σ) (i : Nat) (C : Scene σ → Prop) :
    Prop :=
  ∀ e u, r.dispatcher.Enters q w i e u → ∀ terminal terminal' : Handler σ,
    (∀ s, C s → terminal s = terminal' s) →
    composeChain terminal r.wrappers r.handlerWrappers u =
      composeChain terminal' r.wrappers r.handlerWrappers u

theorem ReachesWithin.mono {r : Registry σ} {q : Request} {w : World σ} {i : Nat}
    {C C' : Scene σ → Prop} (h : r.ReachesWithin q w i C) (hle : ∀ s, C s → C' s) :
    r.ReachesWithin q w i C' :=
  fun e u he terminal terminal' heq ↦ h e u he terminal terminal' fun s hs ↦ heq s (hle s hs)

theorem reachesWithin_reaches {r : Registry σ} {enclosures : List (Enclosure σ)}
    (henc : r.handlerWrappers = enclosures.map Enclosure.wrap) (q : Request) (w : World σ)
    (i : Nat) : r.ReachesWithin q w i (r.Reaches enclosures q w i) := by
  intro e u he terminal terminal' h
  rw [henc]
  exact composeChain_congr fun s hs ↦ h s ⟨e, u, he, hs⟩

def withTerminal (r : Registry σ) (i : Nat) (t : Terminal σ) : Registry σ :=
  { r with routes := r.routes.modify i fun p ↦ { p with terminal := t } }

theorem dispatcher_place (r : Registry σ) {i : Nat} {e : RouteEntry σ}
    (h : r.dispatcher.routes[i]? = some e) :
    ∃ p, r.routes[i]? = some p ∧
      e.handler = composeChain p.terminal.handler r.wrappers r.handlerWrappers := by
  simp only [dispatcher, List.getElem?_map, Option.map_eq_some_iff] at h
  obtain ⟨p, hp, rfl⟩ := h
  exact ⟨p, hp, rfl⟩

theorem map_bare_withTerminal (r : Registry σ) (i : Nat) (t : Terminal σ) :
    (r.withTerminal i t).dispatcher.routes.map RouteEntry.bare =
      r.dispatcher.routes.map RouteEntry.bare := by
  refine List.ext_getElem? fun j ↦ ?_
  simp only [dispatcher, withTerminal, List.map_map, List.getElem?_map, List.getElem?_modify]
  cases r.routes[j]? with
  | none => rfl
  | some p =>
    by_cases hij : i = j
    · simp [hij, RouteEntry.bare]
    · simp [hij]

theorem dispatch_withTerminal {r : Registry σ} {i : Nat} {p : PendingRoute σ}
    (hp : r.routes[i]? = some p) {t : Terminal σ} {q : Request} {w : World σ}
    {C : Scene σ → Prop} (hC : r.ReachesWithin q w i C)
    (h : ∀ s, C s → t.handler s = p.terminal.handler s) (isUpgradable : Bool) :
    (r.withTerminal i t).dispatcher.dispatch isUpgradable q w =
      r.dispatcher.dispatch isUpgradable q w := by
  have hset : r.dispatcher.settings = (r.withTerminal i t).dispatcher.settings := rfl
  have hchan : r.dispatcher.channels = (r.withTerminal i t).dispatcher.channels := rfl
  refine (Dispatcher.dispatch_congr hset hchan (map_bare_withTerminal r i t).symm
    (fun j e e' u he hplace ↦ ?_) isUpgradable).symm
  obtain ⟨p₁, hp₁, hh⟩ := r.dispatcher_place he.place
  obtain ⟨p₂, hp₂, hh'⟩ := (r.withTerminal i t).dispatcher_place hplace
  have hm : (if i = j then { p₁ with terminal := t } else p₁) = p₂ := by
    simpa [withTerminal, List.getElem?_modify, hp₁] using hp₂
  rw [hh, hh']
  by_cases hij : i = j
  · subst hij
    obtain rfl : p = p₁ := Option.some.inj (hp.symm.trans hp₁)
    rw [if_pos rfl] at hm
    subst hm
    exact hC e u he _ _ fun s hs ↦ (h s hs).symm
  · rw [if_neg hij] at hm
    subst hm
    rfl

end Registry

/-! ### Runs -/

/-- What happens to a dispatcher from outside. -/
inductive Stimulus
  | request (thread : Thread) (isUpgradable : Bool) (q : Request)
  | wait (ms : Nat)
  | evict

def Stimulus.isRequest : Stimulus → Bool
  | request .. => true
  | _ => false

namespace Dispatcher

def after (d : Dispatcher σ) (w : World σ) : Stimulus → World σ
  | .request thread isUpgradable q => (d.dispatch isUpgradable q { w with thread }).2
  | .wait ms => w.later ms
  | .evict => w.evictSessions.2

def run (d : Dispatcher σ) (w : World σ) (stimuli : List Stimulus) : World σ :=
  stimuli.foldl d.after w

end Dispatcher

/-! ### The least that answers a request -/

def Terminal.plain (function : RouteFunction σ) : Terminal σ where
  function
  injections := ⟨[], []⟩
  template := none
  headers := []
  defaultContentType := none
  roles := {}
  authenticator := none
  transactions := none
  serializer := .json

def Registry.single (t : Terminal σ) : Registry σ where
  settings := { workerThreads := 1 }
  injector := ⟨[], [], {}⟩
  routes := [{ method := .get, pattern := ⟨"/", []⟩, predicate := none, terminal := t }]
  engines := []
  handlerWrappers := []
  authenticator := t.authenticator
  transactionManager := none
  transactionOptions := {}
  predicateParser := none
  serializer := .json

def freshWorld (app : σ) : World σ :=
  .create "id" 0 app 0 fun _ ↦ ""

def rootRequest : Request :=
  { head := { method := .get, uri := ⟨none, none, "/", none⟩, headers := {} }, body := [] }

theorem Registry.wrapped_enters (t : Terminal σ) (wrappers : List (WrapperEntry σ)) (w : World σ) :
    { single t with wrappers }.dispatcher.Enters rootRequest w 0
      ⟨.get, ⟨"/", []⟩, none, composeChain t.handler wrappers []⟩
      ⟨.ofRequest rootRequest.head, w⟩ := by
  have hs : RouteEntry.AcceptsAt (.ofRequest rootRequest.head)
      { single t with wrappers }.dispatcher.routes w.app 0
      ⟨.get, ⟨"/", []⟩, none, composeChain t.handler wrappers []⟩ [] :=
    ⟨rfl, rfl, rfl, fun p hp ↦ by cases hp⟩
  exact .intro (c := []) rfl ⟨hs, fun j hj ↦ absurd hj (Nat.not_lt_zero j)⟩ rfl

theorem Registry.single_enters (t : Terminal σ) (w : World σ) :
    (single t).dispatcher.Enters rootRequest w 0 ⟨.get, ⟨"/", []⟩, none, t.handler⟩
      ⟨.ofRequest rootRequest.head, w⟩ :=
  wrapped_enters t [] w

theorem Registry.single_reaches (t : Terminal σ) (w : World σ) :
    (single t).Reaches [] rootRequest w 0 ⟨.ofRequest rootRequest.head, w⟩ :=
  ⟨_, _, single_enters t w, rfl⟩

end WebDispatch
