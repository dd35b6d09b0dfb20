import WebDispatch.Proofs.SessionLifetime

namespace WebDispatch

open Http

variable {σ : Type} {H : HeaderPolicy}

/-! ### The cookie of a client -/

namespace Http.Cookie

def IsPair (name value : String) (piece : List Char) : Prop :=
  '=' ∉ name.toList ∧ ∃ quoted, Text.strip Text.isBlank piece = name.toList ++ '=' :: quoted ∧
    value = .ofList (Text.strip isQuote quoted)

theorem valueOf_eq_some_iff (name value : String) (piece : List Char) :
    (valueOf name.toList piece).map .ofList = some value ↔ IsPair name value piece := by
  unfold valueOf
  constructor
  · intro h
    split at h
    · rename_i key quoted hcut
      obtain ⟨hpiece, hkey⟩ := Text.eq_append_of_cutFirst hcut
      split at h
      · rename_i hname
        subst hname
        exact ⟨hkey, quoted, hpiece, (Option.some.inj h).symm⟩
      · cases h
    · cases h
  · rintro ⟨hname, quoted, hpiece, rfl⟩
    rw [hpiece, Text.cutFirst_append '=' _ _ hname]
    simp

end Http.Cookie

def Http.RequestHead.cookiePieces (head : RequestHead) : List (List Char) :=
  ((head.headers.getAll .cookie).filterMap HeaderValue.text?).flatMap fun text ↦
    text.toList.splitOn ';'

/-- The first cookie with a name has the value. -/
def Http.RequestHead.FirstCookie (head : RequestHead) (name value : String) : Prop :=
  ∃ before piece after, head.cookiePieces = before ++ piece :: after ∧
    Cookie.IsPair name value piece ∧ ∀ p ∈ before, ∀ other, ¬ Cookie.IsPair name other p

theorem Exchange.cookie?_eq_findSome? (x : Exchange) (name : String) :
    x.cookie? name = x.request.cookiePieces.findSome? fun p ↦
      (Cookie.valueOf name.toList p).map .ofList := by
  unfold Exchange.cookie? RequestHead.cookiePieces
  induction (x.request.headers.getAll .cookie).filterMap HeaderValue.text? with
  | nil => rfl
  | cons text texts ih =>
    have hv : Cookie.value? text name = (text.toList.splitOn ';').findSome? fun p ↦
        (Cookie.valueOf name.toList p).map .ofList := by
      rw [Cookie.value?, List.map_findSome?]
      rfl
    rw [List.flatMap_cons, List.findSome?_append, ← ih, ← hv, List.findSome?_cons]
    cases Cookie.value? text name <;> rfl

theorem Exchange.cookie?_eq_some_iff (x : Exchange) (name value : String) :
    x.cookie? name = some value ↔ x.request.FirstCookie name value := by
  have hnone : ∀ p, (Cookie.valueOf name.toList p).map String.ofList = none ↔
      ∀ other, ¬ Cookie.IsPair name other p := by
    intro p
    rw [Option.eq_none_iff_forall_ne_some]
    exact forall_congr' fun other ↦ not_congr (Cookie.valueOf_eq_some_iff name other p)
  rw [x.cookie?_eq_findSome?, List.findSome?_eq_some_iff]
  constructor
  · rintro ⟨before, piece, after, hsplit, hpiece, hbefore⟩
    exact ⟨before, piece, after, hsplit, (Cookie.valueOf_eq_some_iff ..).1 hpiece,
      fun p hp ↦ (hnone p).1 (hbefore p hp)⟩
  · rintro ⟨before, piece, after, hsplit, hpiece, hbefore⟩
    exact ⟨before, piece, after, hsplit, (Cookie.valueOf_eq_some_iff ..).2 hpiece,
      fun p hp ↦ (hnone p).2 (hbefore p hp)⟩

namespace World

/-! ### The ids that were given out -/

/-- Behind a run that began with an empty store, every session has one of the ids that were given
out, and every stored one is held. -/
structure Generated (ids : Nat → String) (cookieName : String) (w : World σ) : Prop where
  ids_eq : w.ids = ids
  cookieName_eq : w.sessions.cookieName = cookieName
  held : ∀ id x, w.sessions.held? id = some x → ∃ n < w.issued, id = ids n
  stored : ∀ id ∈ w.sessions.stored, ∃ x, w.sessions.held? id = some x

variable {ids : Nat → String} {cookieName : String} {w : World σ}

theorem generated_create (timeout : Nat) (app : σ) (now : Int) :
    (create cookieName timeout app now ids).Generated ids cookieName where
  ids_eq := rfl
  cookieName_eq := rfl
  held id x h := by cases h
  stored id hm := by cases hm

theorem Generated.congr (h : w.Generated ids cookieName) {w' : World σ} (hids : w'.ids = w.ids)
    (hissued : w'.issued = w.issued) (hsessions : w'.sessions = w.sessions) :
    w'.Generated ids cookieName := by
  obtain ⟨hi, hc, hh, hs⟩ := h
  rw [← hids] at hi
  rw [← hsessions] at hc hh hs
  rw [← hissued] at hh
  exact ⟨hi, hc, hh, hs⟩

theorem Generated.unheld (h : w.Generated ids cookieName) (hids : Function.Injective ids) :
    w.sessions.held? (w.ids w.issued) = none := by
  cases hx : w.sessions.held? (w.ids w.issued) with
  | none => rfl
  | some x =>
    obtain ⟨n, hn, he⟩ := h.held _ x hx
    rw [h.ids_eq] at he
    have := hids he
    omega

theorem Generated.unstored (h : w.Generated ids cookieName) (hids : Function.Injective ids) :
    w.ids w.issued ∉ w.sessions.stored := by
  intro hm
  obtain ⟨x, hx⟩ := h.stored _ hm
  rw [h.unheld hids] at hx
  cases hx

theorem Generated.pruned (h : w.Generated ids cookieName) {now : Int} {st : SessionStore}
    (hp : w.sessions.Pruned now st) : { w with sessions := st }.Generated ids cookieName where
  ids_eq := h.ids_eq
  cookieName_eq := hp.cookieName.trans h.cookieName_eq
  held id x hx := h.held id x ((hp.held? id).symm.trans hx)
  stored id hm := by
    obtain ⟨x, hx⟩ := h.stored id (hp.subset id hm)
    exact ⟨x, (hp.held? id).trans hx⟩

theorem Generated.update (h : w.Generated ids cookieName) (id : String) (f : Session → Session) :
    { w with sessions := w.sessions.update id f }.Generated ids cookieName where
  ids_eq := h.ids_eq
  cookieName_eq := (SessionStore.cookieName_update ..).trans h.cookieName_eq
  held other x hx := by
    replace hx := (SessionStore.held?_update ..).symm.trans hx
    split at hx
    · rename_i heq
      obtain ⟨y, hy, -⟩ := Option.map_eq_some_iff.1 hx
      exact h.held other y (heq ▸ hy)
    · exact h.held other x hx
  stored other hm := by
    rw [SessionStore.stored_update] at hm
    obtain ⟨x, hx⟩ := h.stored other hm
    by_cases heq : other = id
    · subst heq
      refine ⟨f x, (SessionStore.held?_update ..).trans ?_⟩
      rw [if_pos rfl, hx]
      rfl
    · exact ⟨x, (SessionStore.held?_update ..).trans ((if_neg heq).trans hx)⟩

theorem Generated.start (h : w.Generated ids cookieName) :
    { w with
      sessions := w.sessions.start w.now (w.ids w.issued)
      issued := w.issued + 1 }.Generated ids cookieName where
  ids_eq := h.ids_eq
  cookieName_eq := h.cookieName_eq
  held id x hx := by
    replace hx := (SessionStore.held?_start ..).symm.trans hx
    split at hx
    · rename_i heq
      exact ⟨w.issued, Nat.lt_succ_self _, by rw [heq, h.ids_eq]⟩
    · obtain ⟨n, hn, he⟩ := h.held id x hx
      exact ⟨n, Nat.lt_succ_of_lt hn, he⟩
  stored id hm := by
    obtain ⟨x, hx⟩ := h.stored id hm
    by_cases heq : id = w.ids w.issued
    · exact ⟨_, (SessionStore.held?_start ..).trans (if_pos heq)⟩
    · exact ⟨x, (SessionStore.held?_start ..).trans ((if_neg heq).trans hx)⟩

theorem Generated.adopt (h : w.Generated ids cookieName) {id : String} {x : Session}
    (hx : w.sessions.held? id = some x) : (w.adoptSession id).Generated ids cookieName where
  ids_eq := h.ids_eq
  cookieName_eq := (w.sessions.pruned_swept w.now).cookieName.trans h.cookieName_eq
  held other y hy := h.held other y ((w.sessions.held?_adopt ..).symm.trans hy)
  stored other hm := by
    rcases (w.sessions.mem_stored_adopt ..).1 hm with rfl | hm
    · exact ⟨x, (w.sessions.held?_adopt ..).trans hx⟩
    · obtain ⟨y, hy⟩ := h.stored other ((w.sessions.pruned_swept w.now).subset other hm)
      exact ⟨y, (w.sessions.held?_adopt ..).trans hy⟩

end World

namespace Scene

variable {ids : Nat → String} {cookieName : String}

theorem bindSession_generated {s : Scene σ} (h : s.world.Generated ids cookieName) :
    s.bindSession.2.world.Generated ids cookieName := by
  by_cases hp : ∃ id, s.Presents id
  · obtain ⟨id, hp⟩ := hp
    rw [bindSession_of_presents hp]
    exact h.update id _
  · obtain ⟨st, hst, hb⟩ := bindSession_of_not_presents fun id hid ↦ hp ⟨id, hid⟩
    rw [hb]
    exact (h.pruned hst).start

theorem Step.generated {s t : Scene σ} (hs : Step H s t) (h : s.world.Generated ids cookieName) :
    t.world.Generated ids cookieName := by
  cases hs with
  | app a => exact h.congr rfl rfl rfl
  | exchange hx => exact h
  | wait ms => exact h.congr rfl rfl rfl
  | session =>
    cases hses : s.exchange.session with
    | some id =>
      rw [session_of_bound hses]
      exact h
    | none =>
      rw [session_of_unbound hses]
      exact bindSession_generated h
  | write f hid => exact h.update _ _

theorem Steps.generated {s t : Scene σ} (hs : s.Steps H t) (h : s.world.Generated ids cookieName) :
    t.world.Generated ids cookieName := by
  induction hs with
  | refl => exact h
  | tail _ hstep ih => exact hstep.generated ih

theorem Since.conclude_generated {s₀ s : Scene σ} (h : s₀.Since s)
    (hg : s.world.Generated ids cookieName) : s.conclude.2.Generated ids cookieName := by
  by_cases hc : ∃ id, s.Created id
  · obtain ⟨id, hid⟩ := hc
    obtain ⟨x, hx⟩ := h.held hid.1
    obtain rfl : id = s₀.nextId := Option.some.inj (hid.2.symm.trans (h.started hid.1).1)
    rw [conclude_of_created hid]
    exact hg.adopt hx
  · rw [conclude_of_not_created fun id hid ↦ hc ⟨id, hid⟩]
    exact hg

end Scene

namespace Registry

variable {r : Registry σ} {ids : Nat → String} {cookieName : String}

theorem Confined.leaves_generated (hr : r.Confined .free) {q : Request} {w w' : World σ}
    (hl : r.dispatcher.Leaves q w w') (h : w.Generated ids cookieName) :
    w'.Generated ids cookieName := by
  have hopens : ∀ s : Scene σ, s.Opens q w → s.world.Generated ids cookieName := by
    intro s ho
    obtain ⟨a, hw⟩ := ho.world
    rw [hw]
    exact h.congr rfl rfl rfl
  cases hl with
  | @answered i e s u he hrun =>
    have hu := (hr.steps he hrun).generated (hopens s he.opens)
    exact (hr.since he hrun).conclude_generated hu
  | @failed i e s u o he hrun ho => exact (hr.steps he hrun).generated (hopens s he.opens)
  | passed a => exact h.congr rfl rfl rfl

theorem Confined.after_generated (hr : r.Confined .free) {w : World σ}
    (h : w.Generated ids cookieName) (stimulus : Stimulus) :
    (r.dispatcher.after w stimulus).Generated ids cookieName := by
  cases stimulus with
  | request thread isUpgradable q =>
    have hw : { w with thread }.Generated ids cookieName := h.congr rfl rfl rfl
    exact hr.leaves_generated (r.dispatcher.dispatch_leaves isUpgradable q _) hw
  | wait ms => exact h.congr rfl rfl rfl
  | evict => exact h.pruned (w.sessions.pruned_evict w.now)

theorem Confined.run_generated (hr : r.Confined .free) {w : World σ}
    (h : w.Generated ids cookieName) (stimuli : List Stimulus) :
    (r.dispatcher.run w stimuli).Generated ids cookieName := by
  induction stimuli generalizing w with
  | nil => exact h
  | cons stimulus stimuli ih => exact ih (hr.after_generated h stimulus)

end Registry

/-! ### The session that a request gets -/

/-- The session that a request gets if it asks for one at a time: its id, and what is in it. -/
inductive World.Grants (w : World σ) (head : RequestHead) (now : Int) : String → Session → Prop
  | known {id : String} {x : Session} (cookie : head.FirstCookie w.sessions.cookieName id)
      (stored : id ∈ w.sessions.stored) (held : w.sessions.held? id = some x)
      (live : x.isExpired now w.sessions.timeout = false) :
      Grants w head now id { x with lastAccess := now }
  | new (absent : ∀ id, head.FirstCookie w.sessions.cookieName id →
      ¬ w.sessions.IsLive now id) (unheld : w.sessions.held? (w.ids w.issued) = none)
      (unstored : w.ids w.issued ∉ w.sessions.stored) :
      Grants w head now (w.ids w.issued) ⟨w.ids w.issued, {}, now⟩

/-- What a request gets is settled by its cookies and by the store as the request found it. -/
theorem Scene.Since.grants {w : World σ} {ids : Nat → String} {cookieName : String}
    (hg : w.Generated ids cookieName) (hids : Function.Injective ids) {q : Request}
    {s t : Scene σ} (ho : s.Opens q w) (h : s.Since t) (ht : t.exchange.session = none) :
    ∃ x, w.Grants q.head t.world.now t.session.1 x ∧
      t.session.2.world.sessions.held? t.session.1 = some x := by
  obtain ⟨a, hw⟩ := ho.world
  have hsessions : t.world.sessions = w.sessions := by rw [h.unbound ht, hw]
  have hpresents : ∀ id, t.Presents id ↔
      q.head.FirstCookie w.sessions.cookieName id ∧ w.sessions.IsLive t.world.now id := by
    intro id
    rw [Presents, Exchange.cookie?_eq_some_iff, h.request, ho.request, hsessions]
  rw [session_of_unbound ht]
  by_cases hp : ∃ id, t.Presents id
  · obtain ⟨id, hp⟩ := hp
    obtain ⟨hcookie, hstored, hlive⟩ := (hpresents id).1 hp
    obtain ⟨x, hx⟩ := hg.stored id hstored
    rw [SessionStore.isExpired, hx] at hlive
    rw [bindSession_of_presents hp]
    refine ⟨_, .known hcookie hstored hx hlive, (SessionStore.held?_update ..).trans ?_⟩
    rw [if_pos rfl, hsessions, hx]
    rfl
  · have habsent : ∀ id, q.head.FirstCookie w.sessions.cookieName id →
        ¬ w.sessions.IsLive t.world.now id :=
      fun id hc hl ↦ hp ⟨id, (hpresents id).2 ⟨hc, hl⟩⟩
    have hnext : t.nextId = w.ids w.issued := by
      obtain ⟨hissued, -⟩ := h.unstarted (h.startedSession_of_unbound ht)
      rw [nextId, h.ids, hissued, hw]
    obtain ⟨st, -, hb⟩ := bindSession_of_not_presents fun id hid ↦ hp ⟨id, hid⟩
    rw [hb, hnext]
    exact ⟨_, .new habsent (hg.unheld hids) (hg.unstored hids),
      (SessionStore.held?_start ..).trans (if_pos rfl)⟩

end WebDispatch
