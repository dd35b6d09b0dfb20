import WebDispatch.Dispatcher

namespace WebDispatch

variable {σ : Type}

namespace RouteEntry

def question? (r : RouteEntry σ) (x : Exchange) : Option (Predicate σ × Exchange) :=
  match r.predicate, r.captures? x with
  | some p, some pathParams => some (p, x.withPathParams pathParams)
  | _, _ => none

def questions (x : Exchange) (routes : List (RouteEntry σ)) : List (Predicate σ × Exchange) :=
  routes.filterMap fun r ↦ r.question? x

/-- The state in which questions leave the application when each is asked once, in order. -/
def ask (qs : List (Predicate σ × Exchange)) (a : σ) : σ :=
  qs.foldl (fun a q ↦ (q.1 q.2 a).2) a

/-- The route at a place of a table accepts an exchange: method and path fit, and the predicate, if
there is one, accepts the captures of this route when all routes before it were asked. -/
structure AcceptsAt (x : Exchange) (routes : List (RouteEntry σ)) (a : σ) (i : Nat)
    (r : RouteEntry σ) (captures : List (String × String)) : Prop where
  place : routes[i]? = some r
  method : r.method = x.request.method
  path : r.pattern.captures? x.path = some captures
  predicate : ∀ p ∈ r.predicate,
    (p (x.withPathParams captures) (ask (questions x (routes.take i)) a)).1 = true

/-- The first route of a table that accepts an exchange. -/
structure Selects (x : Exchange) (routes : List (RouteEntry σ)) (a : σ) (i : Nat)
    (r : RouteEntry σ) (captures : List (String × String)) : Prop where
  accepts : AcceptsAt x routes a i r captures
  first : ∀ j < i, ∀ r' captures', ¬ AcceptsAt x routes a j r' captures'

theorem captures?_eq_some_iff (r : RouteEntry σ) (x : Exchange) (c : List (String × String)) :
    r.captures? x = some c ↔ r.method = x.request.method ∧ r.pattern.captures? x.path = some c := by
  unfold captures?
  split <;> simp_all

theorem questions_cons (x : Exchange) (r : RouteEntry σ) (rs : List (RouteEntry σ)) :
    questions x (r :: rs) = questions x [r] ++ questions x rs := by
  rw [← List.singleton_append, questions, List.filterMap_append]
  rfl

theorem ask_append (qs qs' : List (Predicate σ × Exchange)) (a : σ) :
    ask (qs ++ qs') a = ask qs' (ask qs a) :=
  List.foldl_append

theorem questions_of_captures?_eq_none {r : RouteEntry σ} {x : Exchange}
    (h : r.captures? x = none) : questions x [r] = [] := by
  cases hp : r.predicate <;> simp [questions, question?, h, hp]

theorem accepts_snd {r : RouteEntry σ} {x : Exchange} {c : List (String × String)}
    (h : r.captures? x = some c) (a : σ) :
    (r.accepts (x.withPathParams c) a).2 = ask (questions x [r]) a := by
  cases hp : r.predicate with
  | none => simp [accepts, questions, question?, ask, hp]; rfl
  | some p => simp [accepts, questions, question?, ask, hp, h]

theorem accepts_fst_iff (r : RouteEntry σ) (x : Exchange) (a : σ) :
    (r.accepts x a).1 = true ↔ ∀ p ∈ r.predicate, (p x a).1 = true := by
  cases hp : r.predicate with
  | none => simp [accepts, hp]; rfl
  | some p => simp [accepts, hp]

theorem acceptsAt_zero_iff (x : Exchange) (r : RouteEntry σ) (rs : List (RouteEntry σ)) (a : σ)
    (r' : RouteEntry σ) (c : List (String × String)) :
    AcceptsAt x (r :: rs) a 0 r' c ↔
      r = r' ∧ r.captures? x = some c ∧ (r.accepts (x.withPathParams c) a).1 = true := by
  rw [accepts_fst_iff, captures?_eq_some_iff]
  constructor
  · intro h
    obtain rfl : r = r' := by simpa using h.place
    exact ⟨rfl, ⟨h.method, h.path⟩, h.predicate⟩
  · rintro ⟨rfl, ⟨hm, hp⟩, ha⟩
    exact ⟨rfl, hm, hp, ha⟩

theorem acceptsAt_succ_iff (x : Exchange) (r : RouteEntry σ) (rs : List (RouteEntry σ)) (a : σ)
    (i : Nat) (r' : RouteEntry σ) (c : List (String × String)) :
    AcceptsAt x (r :: rs) a (i + 1) r' c ↔
      AcceptsAt x rs (ask (questions x [r]) a) i r' c := by
  have hs : ask (questions x ((r :: rs).take (i + 1))) a =
      ask (questions x (rs.take i)) (ask (questions x [r]) a) := by
    rw [List.take_succ_cons, questions_cons, ask_append]
  constructor
  · intro h
    exact ⟨by simpa using h.place, h.method, h.path, hs ▸ h.predicate⟩
  · intro h
    exact ⟨by simpa using h.place, h.method, h.path, hs ▸ h.predicate⟩

theorem Selects.unique {x : Exchange} {routes : List (RouteEntry σ)} {a : σ} {i i' : Nat}
    {r r' : RouteEntry σ} {c c' : List (String × String)} (h : Selects x routes a i r c)
    (h' : Selects x routes a i' r' c') : i = i' ∧ r = r' ∧ c = c' := by
  have hi : i = i' := by
    rcases Nat.lt_trichotomy i i' with hlt | he | hlt
    · exact absurd h.accepts (h'.first i hlt r c)
    · exact he
    · exact absurd h'.accepts (h.first i' hlt r' c')
  subst hi
  obtain rfl : r = r' := Option.some.inj (h.accepts.place.symm.trans h'.accepts.place)
  exact ⟨rfl, rfl, Option.some.inj (h.accepts.path.symm.trans h'.accepts.path)⟩

theorem acceptsAt_withPathParams (x : Exchange) (stale : List (String × String))
    (routes : List (RouteEntry σ)) (a : σ) (i : Nat) (r : RouteEntry σ)
    (c : List (String × String)) :
    AcceptsAt (x.withPathParams stale) routes a i r c ↔ AcceptsAt x routes a i r c :=
  ⟨fun h ↦ ⟨h.place, h.method, h.path, h.predicate⟩,
    fun h ↦ ⟨h.place, h.method, h.path, h.predicate⟩⟩

theorem Selects.of_withPathParams {x : Exchange} {stale : List (String × String)}
    {routes : List (RouteEntry σ)} {a : σ} {i : Nat} {r : RouteEntry σ}
    {c : List (String × String)} (h : Selects (x.withPathParams stale) routes a i r c) :
    Selects x routes a i r c := by
  refine ⟨(acceptsAt_withPathParams ..).1 h.accepts, fun j hj r' c' h' ↦ ?_⟩
  exact h.first j hj r' c' ((acceptsAt_withPathParams ..).2 h')

theorem Selects.cons {x : Exchange} {r : RouteEntry σ} {rs : List (RouteEntry σ)} {a : σ} {i : Nat}
    {r' : RouteEntry σ} {c : List (String × String)}
    (h₀ : ∀ r' c, ¬ AcceptsAt x (r :: rs) a 0 r' c)
    (h : Selects x rs (ask (questions x [r]) a) i r' c) : Selects x (r :: rs) a (i + 1) r' c := by
  refine ⟨(acceptsAt_succ_iff ..).2 h.accepts, fun j hj ↦ ?_⟩
  cases j with
  | zero => exact h₀
  | succ j =>
    intro r₁ c₁ h₁
    exact h.first j (by omega) r₁ c₁ ((acceptsAt_succ_iff ..).1 h₁)

inductive Finds (x : Exchange) (routes : List (RouteEntry σ)) (a : σ) :
    (Option (Handler σ) × Exchange) × σ → Prop
  | selected {i : Nat} {r : RouteEntry σ} {c : List (String × String)}
      (h : Selects x routes a i r c) : Finds x routes a
        ((some r.handler, x.withPathParams c), ask (questions x (routes.take (i + 1))) a)
  | unmatched (h : ∀ i r c, ¬ AcceptsAt x routes a i r c) (y : Exchange) :
      Finds x routes a ((none, y), ask (questions x routes) a)

theorem Finds.cons {x : Exchange} {r : RouteEntry σ} {rs : List (RouteEntry σ)} {a : σ}
    (stale : List (String × String)) {result : (Option (Handler σ) × Exchange) × σ}
    (h₀ : ∀ r' c, ¬ AcceptsAt x (r :: rs) a 0 r' c)
    (h : Finds (x.withPathParams stale) rs (ask (questions x [r]) a) result) :
    Finds x (r :: rs) a result := by
  -- A question has the captures of its own route, so stale ones do not change it.
  have hq (rs' : List (RouteEntry σ)) : ask (questions (x.withPathParams stale) rs')
      (ask (questions x [r]) a) = ask (questions x (r :: rs')) a := by
    rw [questions_cons x r rs', ask_append]
    rfl
  cases h with
  | @selected i r' c h =>
    have hs := Selects.cons h₀ h.of_withPathParams
    rw [hq (rs.take (i + 1)), ← List.take_succ_cons]
    exact .selected hs
  | unmatched h y =>
    rw [hq rs]
    refine .unmatched (fun i r' c hr ↦ ?_) y
    cases i with
    | zero => exact h₀ r' c hr
    | succ i => exact h i r' c ((acceptsAt_withPathParams ..).2 ((acceptsAt_succ_iff ..).1 hr))

end RouteEntry

namespace Dispatcher

open RouteEntry

theorem findRoute_cons_none {r : RouteEntry σ} {x : Exchange} (h : r.captures? x = none)
    (rs : List (RouteEntry σ)) (a : σ) : findRoute x (r :: rs) a = findRoute x rs a := by
  simp only [findRoute, h]

theorem findRoute_cons_some {r : RouteEntry σ} {x : Exchange} {c : List (String × String)}
    (h : r.captures? x = some c) (rs : List (RouteEntry σ)) (a : σ) :
    findRoute x (r :: rs) a =
      if (r.accepts (x.withPathParams c) a).1 = true then
        ((some r.handler, x.withPathParams c), ask (questions x [r]) a)
      else findRoute (x.withPathParams c) rs (ask (questions x [r]) a) := by
  have hs := accepts_snd h a
  simp only [findRoute, h]
  cases ha : r.accepts (x.withPathParams c) a with
  | mk yes b =>
    obtain rfl : b = ask (questions x [r]) a := by rw [← hs, ha]
    change (match r.accepts (x.withPathParams c) a with
      | (yes, b) => (if yes = true then pure (some r.handler, x.withPathParams c)
          else findRoute (x.withPathParams c) rs : StateM σ _) b) = _
    rw [ha]
    cases yes <;> rfl

theorem findRoute_finds (routes : List (RouteEntry σ)) (x : Exchange) (a : σ) :
    Finds x routes a (findRoute x routes a) := by
  -- For every exchange, since each route that is asked leaves its captures in that of the next.
  induction routes generalizing x a with
  | nil =>
    refine .unmatched (fun i r c h ↦ ?_) x
    simpa using h.place
  | cons r rs ih =>
    cases hc : r.captures? x with
    | none =>
      have h₀ : ∀ r' c, ¬ AcceptsAt x (r :: rs) a 0 r' c := by
        intro r' c h
        simp [acceptsAt_zero_iff, hc] at h
      have ha : ask (questions x [r]) a = a := by rw [questions_of_captures?_eq_none hc]; rfl
      rw [findRoute_cons_none hc]
      exact Finds.cons x.pathParams h₀ (by rw [ha]; exact ih x a)
    | some c =>
      rw [findRoute_cons_some hc]
      split
      · rename_i hyes
        have h₀ := (acceptsAt_zero_iff x r rs a r c).2 ⟨rfl, hc, hyes⟩
        exact .selected (i := 0) ⟨h₀, fun j hj ↦ by omega⟩
      · rename_i hno
        refine Finds.cons c (fun r' c' h ↦ ?_) (ih _ _)
        obtain ⟨-, he, hyes⟩ := (acceptsAt_zero_iff ..).1 h
        obtain rfl : c = c' := Option.some.inj (hc.symm.trans he)
        exact hno hyes

theorem findRoute_of_selects {routes : List (RouteEntry σ)} {x : Exchange} {a : σ} {i : Nat}
    {r : RouteEntry σ} {c : List (String × String)} (h : Selects x routes a i r c) :
    findRoute x routes a =
      ((some r.handler, x.withPathParams c), ask (questions x (routes.take (i + 1))) a) := by
  have hf := findRoute_finds routes x a
  generalize findRoute x routes a = result at hf ⊢
  cases hf with
  | selected h' =>
    obtain ⟨rfl, rfl, rfl⟩ := h.unique h'
    rfl
  | unmatched hn y => exact absurd h.accepts (hn i r c)

theorem findRoute_of_forall_not_acceptsAt {routes : List (RouteEntry σ)} {x : Exchange} {a : σ}
    (h : ∀ i r c, ¬ AcceptsAt x routes a i r c) :
    ∃ y, findRoute x routes a = ((none, y), ask (questions x routes) a) := by
  have hf := findRoute_finds routes x a
  generalize findRoute x routes a = result at hf ⊢
  cases hf with
  | @selected i r c h' => exact absurd h'.accepts (h i r c)
  | unmatched hn y => exact ⟨y, rfl⟩

theorem dispatchToRoute_of_selects {d : Dispatcher σ} {head : Http.RequestHead} {w : World σ}
    {i : Nat} {r : RouteEntry σ} {c : List (String × String)}
    (h : Selects (.ofRequest head) d.routes w.app i r c) (body : List Http.Chunk) :
    d.dispatchToRoute ⟨head, body⟩ w =
      let x := (Exchange.ofRequest head).withPathParams c
      let app := ask (questions (.ofRequest head) (d.routes.take (i + 1))) w.app
      match Entity.read d.settings.maxBodyBytes
          (x.requestHeader Http.HeaderName.contentType.text) body with
      | .error e => (.answered e.response, { w with app })
      | .ok entity =>
        let (response, w) := execute r.handler ⟨{ x with entity }, { w with app }⟩
        (.answered response, w) := by
  simp only [dispatchToRoute, findRoute_of_selects h, answer]
  cases Entity.read d.settings.maxBodyBytes
    (((Exchange.ofRequest head).withPathParams c).requestHeader
      Http.HeaderName.contentType.text) body <;> rfl

theorem dispatchToRoute_of_forall_not_acceptsAt {d : Dispatcher σ} {head : Http.RequestHead}
    {w : World σ} (h : ∀ i r c, ¬ AcceptsAt (.ofRequest head) d.routes w.app i r c)
    (body : List Http.Chunk) :
    d.dispatchToRoute ⟨head, body⟩ w = (.unmatched ⟨head, body⟩,
      { w with app := ask (questions (.ofRequest head) d.routes) w.app }) := by
  obtain ⟨y, hy⟩ := findRoute_of_forall_not_acceptsAt h
  simp only [dispatchToRoute, hy]

end Dispatcher

end WebDispatch
