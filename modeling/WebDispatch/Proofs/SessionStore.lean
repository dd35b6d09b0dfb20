import WebDispatch.Session

namespace WebDispatch

theorem Session.isExpired_mono {s : Session} {now later : Int} {timeout : Nat} (h : now ≤ later)
    (he : s.isExpired now timeout = true) : s.isExpired later timeout = true := by
  simp only [isExpired, decide_eq_true_eq] at he ⊢
  have hs : saturate (now - s.lastAccess) ≤ saturate (later - s.lastAccess) := by
    simp only [saturate]
    omega
  omega

namespace SessionStore

theorem isStored_iff (st : SessionStore) (id : String) : st.isStored id = true ↔ id ∈ st.stored := by
  rw [isStored, List.contains_iff_mem]

theorem isExpired_mono {st : SessionStore} {now later : Int} {id : String} (h : now ≤ later)
    (he : st.isExpired now id = true) : st.isExpired later id = true := by
  unfold isExpired at he ⊢
  split at he
  · exact Session.isExpired_mono h he
  · cases he

theorem isExpired_congr {st st' : SessionStore} {id : String} (h : st.held? id = st'.held? id)
    (ht : st.timeout = st'.timeout) (now : Int) : st.isExpired now id = st'.isExpired now id := by
  rw [isExpired, isExpired, h, ht]

/-! ### The sessions held -/

theorem held?_update (st : SessionStore) (id other : String) (f : Session → Session) :
    (st.update id f).held? other = if other = id then (st.held? id).map f else st.held? other := by
  unfold update
  cases hs : st.held? id with
  | none =>
    by_cases ho : other = id
    · simp [ho, hs]
    · simp [ho]
  | some s => exact st.sessions.get?_insert id other (f s)

theorem held?_start (st : SessionStore) (now : Int) (id other : String) :
    (st.start now id).held? other = if other = id then some ⟨id, {}, now⟩ else st.held? other :=
  st.sessions.get?_insert id other _

theorem stored_update (st : SessionStore) (id : String) (f : Session → Session) :
    (st.update id f).stored = st.stored := by
  unfold update
  split <;> rfl

theorem cookieName_update (st : SessionStore) (id : String) (f : Session → Session) :
    (st.update id f).cookieName = st.cookieName := by
  unfold update
  split <;> rfl

theorem timeout_update (st : SessionStore) (id : String) (f : Session → Session) :
    (st.update id f).timeout = st.timeout := by
  unfold update
  split <;> rfl

theorem lastSweep_update (st : SessionStore) (id : String) (f : Session → Session) :
    (st.update id f).lastSweep = st.lastSweep := by
  unfold update
  split <;> rfl

/-! ### The ids stored -/

/-- The second store has the sessions of the first, and stores all of them that have not expired. -/
structure Pruned (st : SessionStore) (now : Int) (st' : SessionStore) : Prop where
  cookieName : st'.cookieName = st.cookieName
  timeout : st'.timeout = st.timeout
  sessions : st'.sessions = st.sessions
  subset : ∀ id ∈ st'.stored, id ∈ st.stored
  kept : ∀ id ∈ st.stored, st.isExpired now id = false → id ∈ st'.stored

theorem Pruned.refl (st : SessionStore) (now : Int) : st.Pruned now st :=
  ⟨rfl, rfl, rfl, fun _ h ↦ h, fun _ h _ ↦ h⟩

theorem Pruned.held? {st st' : SessionStore} {now : Int} (h : st.Pruned now st') (id : String) :
    st'.held? id = st.held? id := by
  rw [SessionStore.held?, h.sessions, SessionStore.held?]

theorem mem_stored_drop (st : SessionStore) (id other : String) :
    other ∈ (st.drop id).stored ↔ other ∈ st.stored ∧ other ≠ id := by
  simp [drop]

theorem mem_stored_evict (st : SessionStore) (now : Int) (id : String) :
    id ∈ (st.evict now).stored ↔ id ∈ st.stored ∧ st.isExpired now id = false := by
  simp [evict]

theorem pruned_drop {st : SessionStore} {now : Int} {id : String}
    (h : st.isExpired now id = true) : st.Pruned now (st.drop id) where
  cookieName := rfl
  timeout := rfl
  sessions := rfl
  subset other hm := ((st.mem_stored_drop id other).1 hm).1
  kept other hm he := by
    refine (st.mem_stored_drop id other).2 ⟨hm, ?_⟩
    rintro rfl
    rw [h] at he
    cases he

theorem pruned_evict (st : SessionStore) (now : Int) : st.Pruned now (st.evict now) where
  cookieName := rfl
  timeout := rfl
  sessions := rfl
  subset id hm := ((st.mem_stored_evict now id).1 hm).1
  kept id hm he := (st.mem_stored_evict now id).2 ⟨hm, he⟩

def keep (st : SessionStore) (id : String) : SessionStore :=
  { st with stored := if st.isStored id then st.stored else st.stored ++ [id] }

theorem mem_stored_keep {st : SessionStore} {id other : String} :
    other ∈ (st.keep id).stored ↔ other = id ∨ other ∈ st.stored := by
  unfold keep
  split
  · rename_i hs
    rw [isStored_iff] at hs
    constructor
    · exact .inr
    · rintro (rfl | hm)
      · exact hs
      · exact hm
  · simp [or_comm]

/-- What a store gives up when a session is stored: all that has expired, or nothing yet. A sweep that
turns out to be due reads the clock anew. -/
def sweptBetween (st : SessionStore) (now later : Int) : SessionStore :=
  if st.isSweepDue now then st.evict later else st

def swept (st : SessionStore) (now : Int) : SessionStore :=
  if st.isSweepDue now then st.evict now else st

theorem adopt_eq_keep (st : SessionStore) (now : Int) (id : String) :
    st.adopt now id = (st.sweptBetween now now).keep id := rfl

theorem pruned_sweptBetween (st : SessionStore) (now later : Int) :
    st.Pruned later (st.sweptBetween now later) := by
  unfold sweptBetween
  split
  · exact st.pruned_evict later
  · exact .refl st later

theorem pruned_swept (st : SessionStore) (now : Int) : st.Pruned now (st.swept now) :=
  st.pruned_sweptBetween now now

theorem held?_adopt (st : SessionStore) (now : Int) (id other : String) :
    (st.adopt now id).held? other = st.held? other :=
  (st.pruned_swept now).held? other

theorem mem_stored_adopt (st : SessionStore) (now : Int) (id other : String) :
    other ∈ (st.adopt now id).stored ↔ other = id ∨ other ∈ (st.swept now).stored := by
  rw [adopt_eq_keep, mem_stored_keep]
  rfl

/-! ### Looking a session up -/

def IsLive (st : SessionStore) (now : Int) (id : String) : Prop :=
  id ∈ st.stored ∧ st.isExpired now id = false

theorem find_of_isLive {st : SessionStore} {now : Int} {id : String} (h : st.IsLive now id) :
    st.find now id = (true, st.update id fun s ↦ { s with lastAccess := now }) := by
  have hs := (st.isStored_iff id).2 h.1
  simp [find, hs, h.2]

theorem find_of_not_isLive {st : SessionStore} {now : Int} {id : String}
    (h : ¬ st.IsLive now id) : ∃ st', st.Pruned now st' ∧ st.find now id = (false, st') := by
  unfold find
  split
  · rename_i hs
    have he : st.isExpired now id = true := by
      cases he : st.isExpired now id with
      | true => rfl
      | false => exact absurd ⟨(st.isStored_iff id).1 hs, he⟩ h
    exact ⟨st.drop id, pruned_drop he, by rw [if_pos he]⟩
  · exact ⟨st, .refl st now, rfl⟩

end SessionStore

end WebDispatch
