import WebDispatch.Proofs.ConfinedChains
import WebDispatch.Proofs.Failures
import WebDispatch.Proofs.SessionBinding

namespace WebDispatch

open Http

variable {σ : Type} {H : HeaderPolicy}

/-! ### The scene of a request -/

/-- The scene in which the handler of a route is entered: it has no session yet, and predicates of
routes changed nothing but the state of the application. -/
structure Scene.Opens (q : Request) (w : World σ) (s : Scene σ) : Prop where
  request : s.exchange.request = q.head
  headers : s.exchange.headers = {}
  session : s.exchange.session = none
  startedSession : s.exchange.startedSession = false
  world : ∃ a, s.world = { w with app := a }

theorem Dispatcher.Enters.opens {d : Dispatcher σ} {q : Request} {w : World σ} {i : Nat}
    {e : RouteEntry σ} {s : Scene σ} (h : d.Enters q w i e s) : s.Opens q w := by
  cases h with
  | intro channel route body => exact ⟨rfl, rfl, rfl, rfl, _, rfl⟩

theorem Registry.Confined.enters {r : Registry σ} (hr : r.Confined .free) {q : Request}
    {w : World σ} {i : Nat} {e : RouteEntry σ} {s : Scene σ} (h : r.dispatcher.Enters q w i e s) :
    Run.Confined .free e.handler := by
  obtain ⟨p, hplace, hh⟩ := r.dispatcher_place h.place
  have ht := hr.terminals p (List.mem_of_getElem? hplace)
  rw [hh]
  exact hr.chain (fun _ _ hx ↦ hx) (ht.handler HeaderPolicy.free_permitsResponse fun _ ↦ trivial)

namespace Scene

/-! ### Its end -/

/-- The session with the id was created in the exchange of the scene. -/
def Created (s : Scene σ) (id : String) : Prop :=
  s.exchange.startedSession = true ∧ s.exchange.session = some id

theorem conclude_of_created {s : Scene σ} {id : String} (h : s.Created id) :
    s.conclude = (s.exchange.response, s.world.adoptSession id) := by
  rw [conclude, h.1, h.2]

theorem conclude_of_not_created {s : Scene σ} (h : ∀ id, ¬ s.Created id) :
    s.conclude = (s.exchange.response, s.world) := by
  unfold conclude
  split
  · rename_i id hb hs
    exact absurd ⟨hb, hs⟩ (h id)
  · rfl

theorem mem_stored_conclude_of_created {s : Scene σ} {id : String} (h : s.Created id) :
    id ∈ s.conclude.2.sessions.stored := by
  rw [conclude_of_created h]
  exact (SessionStore.mem_stored_adopt ..).2 (.inl rfl)

theorem held?_conclude (s : Scene σ) (id : String) :
    s.conclude.2.sessions.held? id = s.world.sessions.held? id := by
  unfold conclude
  split
  · exact SessionStore.held?_adopt ..
  · rfl

theorem mem_stored_of_mem_stored_conclude {s : Scene σ} {id : String}
    (h : id ∈ s.conclude.2.sessions.stored) :
    id ∈ s.world.sessions.stored ∨ s.Created id := by
  by_cases hc : ∃ id, s.Created id
  · obtain ⟨new, hnew⟩ := hc
    rw [conclude_of_created hnew] at h
    rcases (SessionStore.mem_stored_adopt ..).1 h with rfl | hm
    · exact .inr hnew
    · exact .inl ((s.world.sessions.pruned_swept _).subset id hm)
  · rw [conclude_of_not_created fun id hid ↦ hc ⟨id, hid⟩] at h
    exact .inl h

theorem now_conclude (s : Scene σ) : s.conclude.2.now = s.world.now := by
  unfold conclude
  split <;> rfl

theorem issued_conclude (s : Scene σ) : s.conclude.2.issued = s.world.issued := by
  unfold conclude
  split <;> rfl

theorem Since.mem_stored_conclude {s₀ s : Scene σ} (h : s₀.Since s) {id : String}
    (hm : id ∈ s₀.world.sessions.stored)
    (he : s₀.world.sessions.isExpired s.world.now id = false) :
    id ∈ s.conclude.2.sessions.stored := by
  have hk := h.kept id hm he
  by_cases hc : ∃ id, s.Created id
  · obtain ⟨new, hnew⟩ := hc
    by_cases hid : id = new
    · rw [hid]
      exact mem_stored_conclude_of_created hnew
    · -- Another session than the bound one has its record unchanged.
      have hother := h.others id fun hs ↦ hid (Option.some.inj (hs.symm.trans hnew.2))
      rw [← SessionStore.isExpired_congr hother h.timeout] at he
      rw [conclude_of_created hnew]
      exact (SessionStore.mem_stored_adopt ..).2
        (.inr ((s.world.sessions.pruned_swept _).kept id hk he))
  · rw [conclude_of_not_created fun id hid ↦ hc ⟨id, hid⟩]
    exact hk

end Scene

/-! ### What a request leaves in the store -/

namespace Dispatcher

variable {d : Dispatcher σ} {q : Request} {w : World σ} {i : Nat} {e : RouteEntry σ} {s u : Scene σ}

theorem dispatch_of_ok (he : d.Enters q w i e s) (h : e.handler s = (.ok (), u))
    (isUpgradable : Bool) :
    d.dispatch isUpgradable q w = (.answered u.exchange.response, u.conclude.2) := by
  rw [dispatch_of_enters he, execute_of_ok h]
  rfl

theorem dispatch_of_not_ok (he : d.Enters q w i e s) {o : Outcome Unit}
    (h : e.handler s = (o, u)) (ho : o ≠ .ok ()) (isUpgradable : Bool) :
    (d.dispatch isUpgradable q w).2 = u.world := by
  obtain ⟨p, hp⟩ := exists_told ho
  rw [dispatch_of_enters he, execute_of_told h hp]

/-- How a request leaves the world. -/
inductive Leaves (d : Dispatcher σ) (q : Request) (w : World σ) : World σ → Prop
  | answered {i : Nat} {e : RouteEntry σ} {s u : Scene σ} (he : d.Enters q w i e s)
      (h : e.handler s = (.ok (), u)) : Leaves d q w u.conclude.2
  | failed {i : Nat} {e : RouteEntry σ} {s u : Scene σ} {o : Outcome Unit}
      (he : d.Enters q w i e s) (h : e.handler s = (o, u)) (ho : o ≠ .ok ()) : Leaves d q w u.world
  | passed (a : σ) : Leaves d q w { w with app := a }

theorem dispatch_leaves (d : Dispatcher σ) (isUpgradable : Bool) (q : Request) (w : World σ) :
    d.Leaves q w (d.dispatch isUpgradable q w).2 := by
  by_cases hen : ∃ i e s, d.Enters q w i e s
  · obtain ⟨i, e, s, he⟩ := hen
    rcases h : e.handler s with ⟨o, u⟩
    by_cases ho : o = .ok ()
    · subst ho
      rw [dispatch_of_ok he h]
      exact .answered he h
    · rw [dispatch_of_not_ok he h ho]
      exact .failed he h ho
  · obtain ⟨n, hd⟩ :=
      dispatch_of_forall_not_enters (fun i e s he ↦ hen ⟨i, e, s, he⟩) isUpgradable
    rw [hd]
    exact .passed _

end Dispatcher

namespace Registry

variable {r : Registry σ} {q : Request} {w : World σ}

theorem Confined.steps (hr : r.Confined .free) {i : Nat} {e : RouteEntry σ} {s u : Scene σ}
    {o : Outcome Unit} (he : r.dispatcher.Enters q w i e s) (h : e.handler s = (o, u)) :
    s.Steps .free u := by
  have hsteps := (hr.enters he).steps s
  rwa [h] at hsteps

theorem Confined.since (hr : r.Confined .free) {i : Nat} {e : RouteEntry σ} {s u : Scene σ}
    {o : Outcome Unit} (he : r.dispatcher.Enters q w i e s) (h : e.handler s = (o, u)) :
    s.Since u :=
  (hr.steps he h).since he.opens.startedSession

theorem Confined.subset_of_not_ok (hr : r.Confined .free) {i : Nat}
    {e : RouteEntry σ} {s u : Scene σ} {o : Outcome Unit} (he : r.dispatcher.Enters q w i e s)
    (h : e.handler s = (o, u)) (ho : o ≠ .ok ()) (isUpgradable : Bool) :
    ∀ id ∈ (r.dispatcher.dispatch isUpgradable q w).2.sessions.stored, id ∈ w.sessions.stored := by
  intro id hm
  obtain ⟨a, hw⟩ := he.opens.world
  rw [Dispatcher.dispatch_of_not_ok he h ho] at hm
  have hs := (hr.since he h).subset id hm
  rwa [hw] at hs

theorem Confined.stored_of_mem (hr : r.Confined .free) {w' : World σ}
    (h : r.dispatcher.Leaves q w w') {id : String} (hm : id ∈ w'.sessions.stored) :
    id ∈ w.sessions.stored ∨
      ∃ i e s u, r.dispatcher.Enters q w i e s ∧ e.handler s = (.ok (), u) ∧ u.Created id := by
  cases h with
  | @answered i e s u he h =>
    rcases Scene.mem_stored_of_mem_stored_conclude hm with hold | hnew
    · obtain ⟨a, hw⟩ := he.opens.world
      have hs := (hr.since he h).subset id hold
      rw [hw] at hs
      exact .inl hs
    · exact .inr ⟨i, e, s, u, he, h, hnew⟩
  | failed he h ho =>
    obtain ⟨a, hw⟩ := he.opens.world
    have hs := (hr.since he h).subset id hm
    rw [hw] at hs
    exact .inl hs
  | passed a => exact .inl hm

theorem Confined.stored_of_not_expired (hr : r.Confined .free) {w' : World σ}
    (h : r.dispatcher.Leaves q w w') {id : String} (hm : id ∈ w.sessions.stored)
    (hx : w.sessions.isExpired w'.now id = false) : id ∈ w'.sessions.stored := by
  cases h with
  | @answered i e s u he h =>
    obtain ⟨a, hw⟩ := he.opens.world
    have hsessions : s.world.sessions = w.sessions := by rw [hw]
    rw [← hsessions] at hm hx
    rw [u.now_conclude] at hx
    exact (hr.since he h).mem_stored_conclude hm hx
  | @failed i e s u o he h ho =>
    obtain ⟨a, hw⟩ := he.opens.world
    have hsessions : s.world.sessions = w.sessions := by rw [hw]
    rw [← hsessions] at hm hx
    exact (hr.since he h).kept id hm hx
  | passed a => exact hm

/-- Sessions are stored with their response only. What is in the store behind a request was there
before, or is the one session that the request created, and that is there if and only if the chain
around the route ended well, with the attributes that the request left in it. Nothing is gone that
had not expired. -/
theorem sessions_stored_with_response (hr : r.Confined .free) (q : Request)
    (w : World σ) (isUpgradable : Bool) :
    let w' := (r.dispatcher.dispatch isUpgradable q w).2
    (∀ id ∈ w'.sessions.stored, id ∈ w.sessions.stored ∨
      ∃ i e s u, r.dispatcher.Enters q w i e s ∧ e.handler s = (.ok (), u) ∧ u.Created id) ∧
    (∀ id ∈ w.sessions.stored, w.sessions.isExpired w'.now id = false →
      id ∈ w'.sessions.stored) ∧
    ∀ i e s o u, r.dispatcher.Enters q w i e s → e.handler s = (o, u) →
      (o ≠ .ok () → ∀ id ∈ w'.sessions.stored, id ∈ w.sessions.stored) ∧
      ∀ id, u.Created id →
        id = w.ids w.issued ∧ w'.issued = w.issued + 1 ∧
        (id ∉ w.sessions.stored → (id ∈ w'.sessions.stored ↔ o = .ok ())) ∧
        (o = .ok () → id ∈ w'.sessions.stored) ∧
        ∃ x, w'.sessions.held? id = some x ∧ u.world.sessions.held? id = some x := by
  have hleaves := r.dispatcher.dispatch_leaves isUpgradable q w
  refine ⟨fun id hm ↦ hr.stored_of_mem hleaves hm,
    fun id hm hx ↦ hr.stored_of_not_expired hleaves hm hx, ?_⟩
  intro i e s o u he h
  have hfailed := fun ho ↦ hr.subset_of_not_ok he h ho isUpgradable
  refine ⟨hfailed, fun id hc ↦ ?_⟩
  have hsince := hr.since he h
  obtain ⟨a, hw⟩ := he.opens.world
  obtain ⟨hses, hissued⟩ := hsince.started hc.1
  obtain ⟨x, hx⟩ := hsince.held hc.1
  have hnext : s.nextId = w.ids w.issued := by
    rw [Scene.nextId, hw]
  obtain rfl : id = s.nextId := Option.some.inj (hc.2.symm.trans hses)
  have hend : (r.dispatcher.dispatch isUpgradable q w).2.issued = u.world.issued ∧
      (r.dispatcher.dispatch isUpgradable q w).2.sessions.held? s.nextId =
        u.world.sessions.held? s.nextId := by
    by_cases ho : o = .ok ()
    · subst ho
      rw [Dispatcher.dispatch_of_ok he h]
      exact ⟨u.issued_conclude, u.held?_conclude _⟩
    · rw [Dispatcher.dispatch_of_not_ok he h ho]
      exact ⟨rfl, rfl⟩
  have hstored : o = .ok () →
      s.nextId ∈ (r.dispatcher.dispatch isUpgradable q w).2.sessions.stored := by
    intro ho
    subst ho
    rw [Dispatcher.dispatch_of_ok he h]
    exact Scene.mem_stored_conclude_of_created hc
  refine ⟨hnext, ?_, fun hnew ↦ ⟨fun hm ↦ ?_, hstored⟩, hstored, x, hend.2.trans hx, hx⟩
  · rw [hend.1, hissued, hw]
  · exact Classical.byContradiction fun ho ↦ hnew (hfailed ho _ hm)

/-! ### A request that signs in, and one that fails to -/

theorem single_confined {t : Terminal σ} (h : t.Confined H) : (single t).Confined H where
  wrappers := List.forall_mem_nil _
  handlerWrappers := List.forall_mem_nil _
  terminals p hp := by
    obtain rfl := List.mem_singleton.1 hp
    exact h

def signIn (o : Outcome Answer) : RouteFunction Unit := fun _ ↦ do
  Run.setSessionAttribute "user" (.string "ann")
  Run.ofOutcome o

theorem signIn_confined (o : Outcome Answer) : (Terminal.plain (signIn o)).Confined H where
  function _ := (Run.Confined.setSessionAttribute _ _).bind fun _ ↦ .ofOutcome o
  authenticator auth ha := by cases ha

theorem sessions_stored_with_response_of_signIn :
    let w := freshWorld ()
    let answered := (single (.plain (signIn (.ok .empty)))).dispatcher.dispatch true rootRequest w
    let failed := (single (.plain (signIn (.panic .silent)))).dispatcher.dispatch true rootRequest w
    "" ∈ answered.2.sessions.stored ∧
      answered.2.sessions.attribute? "" "user" = some (.string "ann") ∧
      "" ∉ failed.2.sessions.stored := by
  obtain ⟨-, -, ha⟩ := sessions_stored_with_response
    (single_confined (signIn_confined (.ok .empty))) rootRequest (freshWorld ()) true
  obtain ⟨-, hcreated⟩ := ha _ _ _ _ _ (single_enters _ _) rfl
  obtain ⟨-, -, -, hstored, x, hx, hu⟩ := hcreated "" ⟨rfl, rfl⟩
  obtain ⟨-, -, hf⟩ := sessions_stored_with_response
    (single_confined (signIn_confined (.panic .silent))) rootRequest (freshWorld ()) true
  obtain ⟨hfailed, -⟩ := hf _ _ _ _ _ (single_enters _ _) rfl
  refine ⟨hstored rfl, ?_, fun hm ↦ ?_⟩
  · have hkept : x = ⟨"", ⟨[("user", .string "ann")]⟩, 0⟩ := Option.some.inj (hu.symm.trans rfl)
    rw [SessionStore.attribute?, hx, hkept]
    rfl
  · exact List.not_mem_nil (hfailed (fun h ↦ by cases h) "" hm)

end Registry

end WebDispatch
