import Mathlib.Data.List.Induction
import WebDispatch.Proofs.SessionStore

namespace WebDispatch

/-- An operation on a session store. A session is created in the store by a start and an adoption; its
attributes are written by those who hold it. -/
inductive StoreOp
  | start (now : Int) (id : String)
  | adopt (now swept : Int) (id : String)
  | find (now : Int) (id : String)
  | invalidate (id : String)
  | evict (now : Int)
  | write (id : String) (f : Table Json → Table Json)

namespace StoreOp

def readings : StoreOp → List Int
  | start now _ | find now _ | evict now => [now]
  | adopt now swept _ => [now, swept]
  | invalidate _ | write _ _ => []

def started? : StoreOp → Option String
  | start _ id => some id
  | _ => none

def allReadings (ops : List StoreOp) : List Int :=
  ops.flatMap readings

def allStarted (ops : List StoreOp) : List String :=
  ops.filterMap started?

/-- What can be done to a store: a session gets an id of its own when it is started, and none is
adopted that was not started. -/
structure WellFormed (ops : List StoreOp) : Prop where
  fresh : (allStarted ops).Nodup
  adopted : ∀ past now swept id later, ops = past ++ adopt now swept id :: later →
    id ∈ allStarted past

/-- A session was adopted, and not invalidated since. -/
def Kept (ops : List StoreOp) (id : String) : Prop :=
  ∃ past now swept later, ops = past ++ adopt now swept id :: later ∧ invalidate id ∉ later

variable {ops : List StoreOp} {op : StoreOp} {id : String}

theorem allReadings_concat : allReadings (ops ++ [op]) = allReadings ops ++ op.readings := by
  simp [allReadings]

theorem mem_allStarted_concat :
    id ∈ allStarted (ops ++ [op]) ↔ id ∈ allStarted ops ∨ op.started? = some id := by
  simp [allStarted, List.filterMap_append]

theorem WellFormed.init (h : WellFormed (ops ++ [op])) : WellFormed ops where
  fresh := by
    have hf := h.fresh
    rw [allStarted, List.filterMap_append] at hf
    exact (List.nodup_append.1 hf).1
  adopted past now swept id later he := by
    refine h.adopted past now swept id (later ++ [op]) ?_
    rw [he, List.append_assoc, List.cons_append]

theorem WellFormed.unstarted (h : WellFormed (ops ++ [op])) (hop : op.started? = some id) :
    id ∉ allStarted ops := by
  have hf := h.fresh
  rw [allStarted, List.filterMap_append, List.nodup_append] at hf
  intro hm
  exact hf.2.2 id hm id (by simp [hop]) rfl

theorem WellFormed.started_of_kept (h : WellFormed ops) (hk : Kept ops id) :
    id ∈ allStarted ops := by
  obtain ⟨past, now, swept, later, rfl, -⟩ := hk
  have hp := h.adopted past now swept id later rfl
  simp only [allStarted, List.filterMap_append, List.mem_append]
  exact .inl hp

theorem kept_concat_iff :
    Kept (ops ++ [op]) id ↔
      (∃ now swept, op = adopt now swept id) ∨ Kept ops id ∧ op ≠ invalidate id := by
  constructor
  · rintro ⟨past, now, swept, later, he, hn⟩
    rcases List.eq_nil_or_concat later with rfl | ⟨later, last, rfl⟩
    · obtain ⟨-, hop⟩ := List.append_inj' he rfl
      exact .inl ⟨now, swept, by simpa using hop⟩
    · rw [List.concat_eq_append, ← List.cons_append, ← List.append_assoc] at he
      obtain ⟨rfl, hop⟩ := List.append_inj' he rfl
      obtain rfl : op = last := by simpa using hop
      rw [List.concat_eq_append, List.mem_append, not_or] at hn
      refine .inr ⟨⟨past, now, swept, later, rfl, hn.1⟩, fun hinv ↦ hn.2 ?_⟩
      simp [hinv]
  · rintro (⟨now, swept, rfl⟩ | ⟨⟨past, now, swept, later, rfl, hn⟩, hne⟩)
    · exact ⟨ops, now, swept, [], rfl, List.not_mem_nil⟩
    · refine ⟨past, now, swept, later ++ [op], by simp, ?_⟩
      simp [hn, Ne.symm hne]

end StoreOp

namespace SessionStore

def perform (st : SessionStore) : StoreOp → SessionStore
  | .start now id => st.start now id
  | .adopt now swept id => (st.sweptBetween now swept).keep id
  | .find now id => (st.find now id).2
  | .invalidate id => st.drop id
  | .evict now => st.evict now
  | .write id f => st.update id fun s ↦ { s with attributes := f s.attributes }

def after (st : SessionStore) (ops : List StoreOp) : SessionStore :=
  ops.foldl perform st

/-- The operations on a store that never sweeps. Whether a session has expired is asked when it is
looked up, and one that has stays where it is. -/
def performLazily (st : SessionStore) : StoreOp → SessionStore
  | .start now id => st.start now id
  | .adopt _ _ id => st.keep id
  | .find now id => if (st.find now id).1 then (st.find now id).2 else st
  | .invalidate id => st.drop id
  | .evict _ => st
  | .write id f => st.update id fun s ↦ { s with attributes := f s.attributes }

def afterLazily (st : SessionStore) (ops : List StoreOp) : SessionStore :=
  ops.foldl performLazily st

def lookup (st : SessionStore) (now : Int) (id : String) : Option Session :=
  if (st.find now id).1 then (st.find now id).2.held? id else none

variable {st st' st'' : SessionStore} {now later : Int} {id other : String}

theorem after_concat (st : SessionStore) (ops : List StoreOp) (op : StoreOp) :
    st.after (ops ++ [op]) = (st.after ops).perform op := by
  simp [after]

theorem afterLazily_concat (st : SessionStore) (ops : List StoreOp) (op : StoreOp) :
    st.afterLazily (ops ++ [op]) = (st.afterLazily ops).performLazily op := by
  simp [afterLazily]

theorem find_fst_iff : (st.find now id).1 = true ↔ st.IsLive now id := by
  by_cases h : st.IsLive now id
  · simp [find_of_isLive h, h]
  · obtain ⟨st', -, hf⟩ := find_of_not_isLive h
    simp [hf, h]

theorem lookup_of_isLive (h : st.IsLive now id) :
    st.lookup now id = (st.held? id).map fun s ↦ { s with lastAccess := now } := by
  simp [lookup, find_of_isLive h, held?_update]

theorem lookup_of_not_isLive (h : ¬ st.IsLive now id) : st.lookup now id = none := by
  rw [lookup, if_neg]
  rwa [find_fst_iff]

/-! ### What a sweeping store has given up -/

theorem Pruned.mono (h : st.Pruned now st') (hle : now ≤ later) : st.Pruned later st' := by
  refine ⟨h.cookieName, h.timeout, h.sessions, h.subset, fun id hm he ↦ h.kept id hm ?_⟩
  cases hx : st.isExpired now id with
  | false => rfl
  | true =>
    rw [isExpired_mono hle hx] at he
    cases he

theorem Pruned.isExpired (h : st.Pruned now st') (t : Int) (id : String) :
    st'.isExpired t id = st.isExpired t id :=
  isExpired_congr (h.held? id) h.timeout t

theorem Pruned.trans (h : st.Pruned now st') (h' : st'.Pruned now st'') : st.Pruned now st'' where
  cookieName := h'.cookieName.trans h.cookieName
  timeout := h'.timeout.trans h.timeout
  sessions := h'.sessions.trans h.sessions
  subset id hm := h.subset id (h'.subset id hm)
  kept id hm he := h'.kept id (h.kept id hm he) (by rw [h.isExpired, he])

theorem Pruned.isLive_iff (h : st.Pruned now st') : st'.IsLive now id ↔ st.IsLive now id := by
  constructor
  · rintro ⟨hm, he⟩
    exact ⟨h.subset id hm, by rw [← h.isExpired, he]⟩
  · rintro ⟨hm, he⟩
    exact ⟨h.kept id hm he, by rw [h.isExpired, he]⟩

theorem Pruned.lookup (h : st.Pruned now st') : st'.lookup now id = st.lookup now id := by
  by_cases hl : st.IsLive now id
  · rw [lookup_of_isLive hl, lookup_of_isLive (h.isLive_iff.2 hl), h.held?]
  · rw [lookup_of_not_isLive hl, lookup_of_not_isLive fun hl' ↦ hl (h.isLive_iff.1 hl')]

theorem Pruned.start (h : st.Pruned now st') (t : Int) (hid : id ∉ st.stored) :
    (st.start t id).Pruned now (st'.start t id) := by
  refine ⟨h.cookieName, h.timeout, ?_, h.subset, fun other hm he ↦ h.kept other hm ?_⟩
  · simp only [SessionStore.start, h.sessions]
  · have hne : other ≠ id := fun heq ↦ hid (heq ▸ hm)
    have hheld : (st.start t id).held? other = st.held? other :=
      (held?_start ..).trans (if_neg hne)
    rwa [isExpired_congr hheld rfl] at he

theorem Pruned.keep (h : st.Pruned now st') (id : String) :
    (st.keep id).Pruned now (st'.keep id) := by
  refine ⟨h.cookieName, h.timeout, h.sessions, fun other hm ↦ ?_, fun other hm he ↦ ?_⟩
  · exact mem_stored_keep.2 ((mem_stored_keep.1 hm).imp_right (h.subset other))
  · exact mem_stored_keep.2 ((mem_stored_keep.1 hm).imp_right fun hm' ↦ h.kept other hm' he)

theorem Pruned.drop (h : st.Pruned now st') (id : String) :
    (st.drop id).Pruned now (st'.drop id) := by
  refine ⟨h.cookieName, h.timeout, h.sessions, fun other hm ↦ ?_, fun other hm he ↦ ?_⟩
  · rw [mem_stored_drop] at hm ⊢
    exact ⟨h.subset other hm.1, hm.2⟩
  · rw [mem_stored_drop] at hm ⊢
    exact ⟨h.kept other hm.1 he, hm.2⟩

theorem Pruned.update (h : st.Pruned now st') {f : Session → Session}
    (hf : id ∈ st'.stored ∨ ∀ s : Session, (f s).lastAccess = s.lastAccess) :
    (st.update id f).Pruned now (st'.update id f) := by
  refine ⟨?_, ?_, ?_, fun other hm ↦ ?_, fun other hm he ↦ ?_⟩
  · rw [cookieName_update, cookieName_update, h.cookieName]
  · rw [timeout_update, timeout_update, h.timeout]
  · have hheld : st'.held? id = st.held? id := h.held? id
    unfold SessionStore.update
    rw [hheld]
    cases st.held? id with
    | none => exact h.sessions
    | some s => simp only [h.sessions]
  · rw [stored_update] at hm ⊢
    exact h.subset other hm
  · rw [stored_update] at hm ⊢
    by_cases heq : other = id
    · subst heq
      rcases hf with hm' | hf
      · exact hm'
      · apply h.kept other hm
        have hheld := (held?_update st other other f).trans (if_pos rfl)
        have ht := timeout_update st other f
        unfold SessionStore.isExpired at he ⊢
        rw [hheld, ht] at he
        cases hs : st.held? other with
        | none => rfl
        | some s =>
          rw [hs] at he
          simp only [Option.map_some, Session.isExpired, hf s] at he
          exact he
    · have hheld := (held?_update st id other f).trans (if_neg heq)
      rw [isExpired_congr hheld (timeout_update ..)] at he
      exact h.kept other hm he

theorem Pruned.find (h : st.Pruned now st') (id : String) :
    (st.performLazily (.find now id)).Pruned now (st'.find now id).2 := by
  by_cases hl : st.IsLive now id
  · have hl' := h.isLive_iff.2 hl
    simp only [performLazily, find_of_isLive hl, find_of_isLive hl', if_true]
    exact h.update (.inl hl'.1)
  · obtain ⟨st₁, -, hf⟩ := find_of_not_isLive hl
    obtain ⟨st₂, hp, hf'⟩ := find_of_not_isLive fun hl' ↦ hl (h.isLive_iff.1 hl')
    simp only [performLazily, hf, hf', Bool.false_eq_true, if_false]
    exact h.trans hp

/-- One operation on both stores, the sweeping one being behind by sessions expired before. -/
theorem Pruned.perform (h : st.Pruned now st') (op : StoreOp)
    (hop : ∀ t ∈ op.readings, now ≤ t) (hfresh : ∀ id, op.started? = some id → id ∉ st.stored)
    (hlater : now ≤ later) (hle : ∀ t ∈ op.readings, t ≤ later) :
    (st.performLazily op).Pruned later (st'.perform op) := by
  cases op with
  | start t id => exact (h.mono hlater).start t (hfresh id rfl)
  | adopt t swept id =>
    have hswept : swept ≤ later := hle swept (by simp [StoreOp.readings])
    exact ((h.mono hlater).trans ((st'.pruned_sweptBetween t swept).mono hswept)).keep id
  | find t id =>
    have ht : t ∈ (StoreOp.find t id).readings := by simp [StoreOp.readings]
    exact ((h.mono (hop t ht)).find id).mono (hle t ht)
  | invalidate id => exact (h.mono hlater).drop id
  | evict t =>
    have ht : t ≤ later := hle t (by simp [StoreOp.readings])
    exact (h.mono hlater).trans ((st'.pruned_evict t).mono ht)
  | write id f => exact (h.mono hlater).update (.inr fun _ ↦ rfl)

/-! ### The store that never sweeps -/

open StoreOp

structure IsNew (st : SessionStore) : Prop where
  unheld : ∀ id, st.held? id = none
  unstored : st.stored = []

theorem isNew_create (cookieName : String) (timeout : Nat) (begun : Int) :
    (create cookieName timeout begun).IsNew :=
  ⟨fun _ ↦ rfl, rfl⟩

variable {ops : List StoreOp} {op : StoreOp}

theorem isSome_held?_performLazily_iff :
    ((st.performLazily op).held? id).isSome ↔ (st.held? id).isSome ∨ op.started? = some id := by
  cases op with
  | start now other =>
    simp only [performLazily, held?_start, started?, Option.some.injEq]
    by_cases ho : id = other
    · simp [ho]
    · simp [ho, Ne.symm ho]
  | find now other =>
    simp only [performLazily, started?]
    by_cases hl : st.IsLive now other
    · simp only [find_of_isLive hl, if_true, held?_update]
      split <;> simp_all
    · simp [find_fst_iff, hl]
  | write other f =>
    simp only [performLazily, started?, held?_update]
    split <;> simp_all
  | _ => simp [performLazily, started?, held?, keep, SessionStore.drop]

theorem isSome_held?_afterLazily_iff (h : st.IsNew) :
    ((st.afterLazily ops).held? id).isSome ↔ id ∈ allStarted ops := by
  induction ops using List.reverseRecOn with
  | nil => simp [afterLazily, h.unheld, allStarted]
  | append_singleton ops op ih =>
    rw [afterLazily_concat, mem_allStarted_concat, ← ih]
    exact isSome_held?_performLazily_iff

theorem mem_stored_afterLazily_iff (h : st.IsNew) :
    id ∈ (st.afterLazily ops).stored ↔ Kept ops id := by
  induction ops using List.reverseRecOn with
  | nil => simp [afterLazily, h.unstored, Kept]
  | append_singleton ops op ih =>
    rw [afterLazily_concat, kept_concat_iff, ← ih]
    generalize st.afterLazily ops = st
    cases op with
    | start now other => simp [performLazily, SessionStore.start]
    | adopt now swept other => simp [performLazily, mem_stored_keep, eq_comm]
    | find now other =>
      simp only [performLazily]
      by_cases hl : st.IsLive now other
      · simp [find_of_isLive hl, stored_update]
      · simp [find_fst_iff, hl]
    | invalidate other => simp [performLazily, mem_stored_drop, eq_comm]
    | evict now => simp [performLazily]
    | write other f => simp [performLazily, stored_update]

theorem isSome_held?_of_stored (h : st.IsNew) (hops : WellFormed ops)
    (hm : id ∈ (st.afterLazily ops).stored) : ((st.afterLazily ops).held? id).isSome := by
  rw [mem_stored_afterLazily_iff h] at hm
  rw [isSome_held?_afterLazily_iff h]
  exact hops.started_of_kept hm

theorem timeout_performLazily (st : SessionStore) (op : StoreOp) :
    (st.performLazily op).timeout = st.timeout := by
  cases op with
  | find now other =>
    simp only [performLazily]
    by_cases hl : st.IsLive now other
    · simp [find_of_isLive hl, timeout_update]
    · simp [find_fst_iff, hl]
  | write other f => exact timeout_update ..
  | _ => rfl

theorem timeout_afterLazily (st : SessionStore) (ops : List StoreOp) :
    (st.afterLazily ops).timeout = st.timeout := by
  induction ops using List.reverseRecOn with
  | nil => rfl
  | append_singleton ops op ih => rw [afterLazily_concat, timeout_performLazily, ih]

end SessionStore

end WebDispatch
