import WebDispatch.Proofs.SessionCode

namespace WebDispatch

open Http

variable {σ : Type} {H : HeaderPolicy}

namespace Exchange

theorem announce_request (x : Exchange) (cookieName id : String) :
    (x.announce cookieName id).request = x.request := by
  unfold announce
  split <;> rfl

end Exchange

namespace Scene

def withSessions (s : Scene σ) (st : SessionStore) : Scene σ :=
  { s with world := { s.world with sessions := st } }

def nextId (s : Scene σ) : String :=
  s.world.ids s.world.issued

/-- The cookie of the client names a live session. -/
def Presents (s : Scene σ) (id : String) : Prop :=
  s.exchange.cookie? s.world.sessions.cookieName = some id ∧
    s.world.sessions.IsLive s.world.now id

/-! ### Binding a session -/

theorem presented_of_presents {s : Scene σ} {id : String} (h : s.Presents id) :
    s.presented = (some id, s.withSessions
      (s.world.sessions.update id fun x ↦ { x with lastAccess := s.world.now })) := by
  simp only [presented, h.1, World.findSession, SessionStore.find_of_isLive h.2]
  rfl

theorem presented_of_not_presents {s : Scene σ} (h : ∀ id, ¬ s.Presents id) :
    ∃ st, s.world.sessions.Pruned s.world.now st ∧ s.presented = (none, s.withSessions st) := by
  cases hc : s.exchange.cookie? s.world.sessions.cookieName with
  | none =>
    refine ⟨s.world.sessions, .refl _ _, ?_⟩
    simp only [presented, hc]
    rfl
  | some id =>
    have hn : ¬ s.world.sessions.IsLive s.world.now id := fun hl ↦ h id ⟨hc, hl⟩
    obtain ⟨st, hp, hf⟩ := SessionStore.find_of_not_isLive hn
    refine ⟨st, hp, ?_⟩
    simp only [presented, hc, World.findSession, hf]
    rfl

theorem bindSession_of_presents {s : Scene σ} {id : String} (h : s.Presents id) :
    s.bindSession = (id, (s.withSessions
      (s.world.sessions.update id fun x ↦ { x with lastAccess := s.world.now })).withExchange
        { s.exchange with session := some id }) := by
  rw [bindSession, presented_of_presents h]
  rfl

theorem bindSession_of_not_presents {s : Scene σ} (h : ∀ id, ¬ s.Presents id) :
    ∃ st, s.world.sessions.Pruned s.world.now st ∧
      s.bindSession = (s.nextId,
        { exchange :=
            { s.exchange.announce s.world.sessions.cookieName s.nextId with
              session := some s.nextId
              startedSession := true }
          world :=
            { s.world with
              sessions := st.start s.world.now s.nextId
              issued := s.world.issued + 1 } }) := by
  obtain ⟨st, hp, hs⟩ := presented_of_not_presents h
  refine ⟨st, hp, ?_⟩
  rw [bindSession, hs, ← hp.cookieName]
  rfl

/-! ### From one scene of a request to a later one -/

/-- What holds of a scene that a request comes to from one in which it has no session yet. -/
structure Since (s₀ s : Scene σ) : Prop where
  request : s.exchange.request = s₀.exchange.request
  now : s₀.world.now ≤ s.world.now
  ids : s.world.ids = s₀.world.ids
  cookieName : s.world.sessions.cookieName = s₀.world.sessions.cookieName
  timeout : s.world.sessions.timeout = s₀.world.sessions.timeout
  unbound : s.exchange.session = none → s.world.sessions = s₀.world.sessions
  started : s.exchange.startedSession = true →
    s.exchange.session = some s₀.nextId ∧ s.world.issued = s₀.world.issued + 1
  held : s.exchange.startedSession = true → ∃ x, s.world.sessions.held? s₀.nextId = some x
  unstarted : s.exchange.startedSession = false →
    s.world.issued = s₀.world.issued ∧ s.world.sessions.stored = s₀.world.sessions.stored
  subset : ∀ id ∈ s.world.sessions.stored, id ∈ s₀.world.sessions.stored
  kept : ∀ id ∈ s₀.world.sessions.stored,
    s₀.world.sessions.isExpired s.world.now id = false → id ∈ s.world.sessions.stored
  others : ∀ id, s.exchange.session ≠ some id →
    s.world.sessions.held? id = s₀.world.sessions.held? id

theorem Since.refl {s : Scene σ} (h : s.exchange.startedSession = false) : s.Since s where
  request := rfl
  now := Int.le_refl _
  ids := rfl
  cookieName := rfl
  timeout := rfl
  unbound _ := rfl
  started ht := by rw [h] at ht; cases ht
  held ht := by rw [h] at ht; cases ht
  unstarted _ := ⟨rfl, rfl⟩
  subset _ hm := hm
  kept _ hm _ := hm
  others _ _ := rfl

theorem Since.startedSession_of_unbound {s₀ s : Scene σ} (h : s₀.Since s)
    (hs : s.exchange.session = none) : s.exchange.startedSession = false := by
  cases hb : s.exchange.startedSession with
  | false => rfl
  | true =>
    have hsome := (h.started hb).1
    rw [hs] at hsome
    cases hsome

theorem Since.update {s₀ s : Scene σ} (h : s₀.Since s) {id : String}
    (hid : ∀ other, s.exchange.session = some other → other = id) (f : Session → Session)
    {x : Exchange} (hr : x.request = s.exchange.request) (hx : x.session = some id)
    (hb : x.startedSession = s.exchange.startedSession) :
    s₀.Since ((s.withSessions (s.world.sessions.update id f)).withExchange x) where
  request := hr.trans h.request
  now := h.now
  ids := h.ids
  cookieName := (SessionStore.cookieName_update ..).trans h.cookieName
  timeout := (SessionStore.timeout_update ..).trans h.timeout
  unbound hn := by
    rw [show x.session = none from hn] at hx
    cases hx
  started hst := by
    obtain ⟨hses, hi⟩ := h.started (hb.symm.trans hst)
    refine ⟨?_, hi⟩
    rw [hid _ hses]
    exact hx
  held hst := by
    obtain ⟨x, hheld⟩ := h.held (hb.symm.trans hst)
    have hnew := hid _ (h.started (hb.symm.trans hst)).1
    rw [hnew] at hheld ⊢
    refine ⟨f x, (SessionStore.held?_update ..).trans ?_⟩
    rw [if_pos rfl, hheld]
    rfl
  unstarted hst := by
    obtain ⟨hi, hstored⟩ := h.unstarted (hb.symm.trans hst)
    exact ⟨hi, (SessionStore.stored_update ..).trans hstored⟩
  subset other hm := h.subset other (by rwa [← SessionStore.stored_update])
  kept other hm he := by
    have hk := h.kept other hm he
    rwa [← SessionStore.stored_update] at hk
  others other hne := by
    have ho : other ≠ id := fun he ↦ hne (hx.trans (congrArg some he.symm))
    have hn : s.exchange.session ≠ some other := fun he ↦ ho (hid other he)
    exact ((SessionStore.held?_update ..).trans (if_neg ho)).trans (h.others other hn)

theorem Since.start {s₀ s : Scene σ} (h : s₀.Since s) (hs : s.exchange.session = none)
    {st : SessionStore} (hp : s.world.sessions.Pruned s.world.now st) {x : Exchange}
    (hx : x.request = s.exchange.request) :
    s₀.Since ⟨{ x with session := some s.nextId, startedSession := true },
      { s.world with
        sessions := st.start s.world.now s.nextId
        issued := s.world.issued + 1 }⟩ := by
  obtain ⟨hissued, -⟩ := h.unstarted (h.startedSession_of_unbound hs)
  have hid : s.nextId = s₀.nextId := by rw [nextId, nextId, h.ids, hissued]
  have hst := h.unbound hs
  rw [hst] at hp
  constructor
  case request => exact hx.trans h.request
  case now => exact h.now
  case ids => exact h.ids
  case cookieName => exact hp.cookieName
  case timeout => exact hp.timeout
  case unbound => exact fun hn ↦ by cases hn
  case started => exact fun _ ↦ ⟨congrArg some hid, congrArg (· + 1) hissued⟩
  case held =>
    intro _
    rw [← hid]
    exact ⟨_, (st.held?_start ..).trans (if_pos rfl)⟩
  case unstarted => exact fun hb ↦ by cases hb
  case subset => exact hp.subset
  case kept => exact hp.kept
  case others =>
    intro other hne
    have ho : other ≠ s.nextId := fun he ↦ hne (congrArg some he.symm)
    exact ((st.held?_start ..).trans (if_neg ho)).trans (hp.held? other)

theorem Since.session {s₀ s : Scene σ} (h : s₀.Since s) : s₀.Since s.session.2 := by
  cases hs : s.exchange.session with
  | some id =>
    rw [session_of_bound hs]
    exact h
  | none =>
    rw [session_of_unbound hs]
    by_cases hp : ∃ id, s.Presents id
    · obtain ⟨id, hp⟩ := hp
      rw [bindSession_of_presents hp]
      exact h.update (fun other ho ↦ by rw [hs] at ho; cases ho) _ rfl rfl rfl
    · obtain ⟨st, hst, hb⟩ := bindSession_of_not_presents fun id hid ↦ hp ⟨id, hid⟩
      rw [hb]
      exact h.start hs hst (s.exchange.announce_request _ _)

theorem Since.rewrite {s₀ s : Scene σ} (h : s₀.Since s) {id : String}
    (hs : s.exchange.session = some id) (f : Table Json → Table Json) :
    s₀.Since (s.rewrite id f) :=
  h.update (fun _ ho ↦ Option.some.inj (ho.symm.trans hs)) _ rfl hs rfl

theorem Since.later {s₀ s : Scene σ} (h : s₀.Since s) (ms : Nat) : s₀.Since (s.later ms) := by
  have hle : s.world.now ≤ s.world.now + ms := by omega
  refine ⟨h.request, Int.le_trans h.now hle, h.ids, h.cookieName, h.timeout, h.unbound, h.started,
    h.held, h.unstarted, h.subset, fun id hm he ↦ h.kept id hm ?_, h.others⟩
  cases hb : s₀.world.sessions.isExpired s.world.now id with
  | false => rfl
  | true =>
    have hlater := SessionStore.isExpired_mono hle hb
    exact hlater.symm.trans he

theorem Since.withExchange {s₀ s : Scene σ} (h : s₀.Since s) {x : Exchange}
    (hx : s.exchange.Amends H x) : s₀.Since (s.withExchange x) :=
  ⟨hx.request.trans h.request, h.now, h.ids, h.cookieName, h.timeout,
    fun hn ↦ h.unbound (hx.session.symm.trans hn),
    fun hb ↦ by
      obtain ⟨hses, hi⟩ := h.started (hx.startedSession.symm.trans hb)
      exact ⟨hx.session.trans hses, hi⟩,
    fun hb ↦ h.held (hx.startedSession.symm.trans hb),
    fun hb ↦ h.unstarted (hx.startedSession.symm.trans hb),
    h.subset, h.kept,
    fun id hne ↦ h.others id fun he ↦ hne (hx.session.trans he)⟩

theorem Since.step {s₀ s t : Scene σ} (h : s₀.Since s) (hs : Step H s t) : s₀.Since t := by
  cases hs with
  | app a =>
    exact ⟨h.request, h.now, h.ids, h.cookieName, h.timeout, h.unbound, h.started, h.held,
      h.unstarted, h.subset, h.kept, h.others⟩
  | exchange hx => exact h.withExchange hx
  | wait ms => exact h.later ms
  | session => exact h.session
  | write f hid => exact h.rewrite hid f

theorem Steps.since {s₀ s : Scene σ} (h : s₀.Steps H s)
    (hs : s₀.exchange.startedSession = false) : s₀.Since s := by
  induction h with
  | refl => exact .refl hs
  | tail _ hstep ih => exact ih.step hstep

theorem Steps.session_eq_some {s t : Scene σ} (h : s.Steps H t) {id : String}
    (hs : s.exchange.session = some id) : t.exchange.session = some id := by
  induction h with
  | refl => exact hs
  | tail _ hstep ih =>
    cases hstep with
    | exchange hx => exact hx.session.trans ih
    | session =>
      rw [session_of_bound ih]
      exact ih
    | _ => exact ih

end Scene

end WebDispatch
