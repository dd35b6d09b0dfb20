import Mathlib.Data.List.Chain
import WebDispatch.Proofs.SessionHistory

namespace WebDispatch

def Session.longest : Int := 0x7FFFFFFFFFFFFFFF

/-- The second instant follows the first by at most a timeout. -/
def Session.Within (timeout : Nat) (t u : Int) : Prop :=
  u - t ≤ timeout

instance (timeout : Nat) : DecidableRel (Session.Within timeout) :=
  fun t u ↦ inferInstanceAs (Decidable (u - t ≤ timeout))

theorem Session.timeoutBits_eq_self {timeout : Nat} (h : (timeout : Int) ≤ longest) :
    timeoutBits timeout = timeout := by
  apply Int.bmod_eq_of_le <;> simp only [longest] at h <;> omega

theorem Session.isExpired_eq_false_iff {s : Session} {now : Int} {timeout : Nat}
    (ht : (timeout : Int) ≤ longest) (hle : s.lastAccess ≤ now)
    (hspan : now - s.lastAccess ≤ longest) :
    s.isExpired now timeout = false ↔ Within timeout s.lastAccess now := by
  have hbits := timeoutBits_eq_self ht
  simp only [isExpired, hbits, saturate, longest, Within, decide_eq_false_iff_not] at *
  omega

/-- The readings of a clock that is not set back. It counts milliseconds from a fixed instant, in 64
bits with sign, so no two readings are further apart than the longest time. -/
def StoreOp.Clocked (ts : List Int) : Prop :=
  ts.Pairwise fun t u ↦ t ≤ u ∧ u - t ≤ Session.longest

namespace SessionStore

open StoreOp

structure IsHistory (st : SessionStore) (ops : List StoreOp) : Prop where
  isNew : st.IsNew
  wellFormed : WellFormed ops
  clocked : Clocked (allReadings ops)

def lastUse (st : SessionStore) (id : String) : Option Int :=
  (st.held? id).map Session.lastAccess

def use? (st : SessionStore) (id : String) : StoreOp → Option Int
  | .start now other => if other = id then some now else none
  | .find now other => if other = id ∧ (st.find now other).1 then some now else none
  | _ => none

def uses (st : SessionStore) (id : String) : List StoreOp → List Int
  | [] => []
  | op :: ops => (st.use? id op).toList ++ (st.perform op).uses id ops

variable {st st' : SessionStore} {now : Int} {ops : List StoreOp} {op : StoreOp} {id : String}

theorem uses_concat (st : SessionStore) (id : String) (ops : List StoreOp) (op : StoreOp) :
    st.uses id (ops ++ [op]) = st.uses id ops ++ ((st.after ops).use? id op).toList := by
  induction ops generalizing st with
  | nil => simp [uses, after]
  | cons o ops ih => simp [uses, ih, after]

theorem getLast?_uses_concat (st : SessionStore) (id : String) (ops : List StoreOp) (op : StoreOp) :
    (st.uses id (ops ++ [op])).getLast? =
      ((st.after ops).use? id op).or (st.uses id ops).getLast? := by
  have hlast (o : Option Int) : o.toList.getLast? = o := by cases o <;> rfl
  rw [uses_concat, List.getLast?_append, hlast]

theorem mem_readings_of_use? {t : Int} (h : st.use? id op = some t) : t ∈ op.readings := by
  cases op <;> simp_all [use?, StoreOp.readings]

theorem mem_allReadings_of_mem_uses {t : Int} (h : t ∈ st.uses id ops) : t ∈ allReadings ops := by
  induction ops generalizing st with
  | nil => simp [uses] at h
  | cons op ops ih =>
    rw [uses, List.mem_append] at h
    rw [allReadings, List.flatMap_cons, List.mem_append]
    rcases h with h | h
    · exact .inl (mem_readings_of_use? (Option.mem_toList.1 h))
    · exact .inr (ih h)

namespace IsHistory

theorem init (h : st.IsHistory (ops ++ [op])) : st.IsHistory ops where
  isNew := h.isNew
  wellFormed := h.wellFormed.init
  clocked := by
    have hc := h.clocked
    rw [allReadings_concat] at hc
    exact (List.pairwise_append.1 hc).1

theorem clocked_reading (h : st.IsHistory (ops ++ [op])) (t : Int) (hm : t ∈ op.readings) :
    Clocked (allReadings ops ++ [t]) := by
  have hc := h.clocked
  rw [allReadings_concat] at hc
  exact hc.sublist (.append_left (List.singleton_sublist.2 hm) _)

/-- A store falls behind the one that never sweeps by expired sessions only. -/
theorem pruned (h : st.IsHistory ops) (hle : ∀ t ∈ allReadings ops, t ≤ now) :
    (st.afterLazily ops).Pruned now (st.after ops) := by
  induction ops using List.reverseRecOn generalizing now with
  | nil => exact .refl _ now
  | append_singleton ops op ih =>
    have hstored (other : String) (ho : op.started? = some other) :
        other ∉ (st.afterLazily ops).stored := by
      rw [mem_stored_afterLazily_iff h.isNew]
      exact fun hk ↦ h.wellFormed.unstarted ho (h.init.wellFormed.started_of_kept hk)
    have hc := h.clocked
    rw [allReadings_concat] at hc hle
    rw [afterLazily_concat, after_concat]
    -- The past is over by the first reading of the operation, or by now if it takes none.
    cases hr : op.readings with
    | nil =>
      have hp := ih h.init fun t ht ↦ hle t (List.mem_append_left _ ht)
      exact hp.perform op (by simp [hr]) hstored (Int.le_refl _) (by simp [hr])
    | cons first rest =>
      have hfirst : first ∈ op.readings := by simp [hr]
      have hnow (t : Int) (ht : t ∈ op.readings) : t ≤ now := hle t (List.mem_append_right _ ht)
      have hrest (t : Int) (ht : t ∈ op.readings) : first ≤ t := by
        have ho := (List.pairwise_append.1 hc).2.1
        rw [hr] at ho ht
        rcases List.mem_cons.1 ht with rfl | ht
        · exact Int.le_refl _
        · exact (List.rel_of_pairwise_cons ho ht).1
      have hp := ih h.init fun t ht ↦ ((List.pairwise_append.1 hc).2.2 t ht first hfirst).1
      exact hp.perform op hrest hstored (hnow first hfirst) hnow

theorem pruned_of_clocked (h : st.IsHistory ops) (hclock : Clocked (allReadings ops ++ [now])) :
    (st.afterLazily ops).Pruned now (st.after ops) :=
  h.pruned fun t ht ↦ ((List.pairwise_append.1 hclock).2.2 t ht now List.mem_cons_self).1

theorem use?_after (h : st.IsHistory (ops ++ [op])) :
    (st.after ops).use? id op = (st.afterLazily ops).use? id op := by
  cases op with
  | find now other =>
    have hp := h.init.pruned_of_clocked (h.clocked_reading now List.mem_cons_self)
    have hfound : ((st.after ops).find now other).1 = ((st.afterLazily ops).find now other).1 := by
      rw [Bool.eq_iff_iff, find_fst_iff, find_fst_iff, hp.isLive_iff]
    simp only [use?, hfound]
  | _ => rfl

end IsHistory

/-! ### Uses of a session -/

theorem lastUse_performLazily (hheld : id ∈ st.stored → (st.held? id).isSome) :
    (st.performLazily op).lastUse id = (st.use? id op).or (st.lastUse id) := by
  cases op with
  | start now other =>
    simp only [lastUse, performLazily, held?_start, use?]
    by_cases ho : id = other
    · simp [ho]
    · simp [ho, Ne.symm ho]
  | find now other =>
    simp only [lastUse, performLazily, use?]
    by_cases hl : st.IsLive now other
    · simp only [find_of_isLive hl, if_true, held?_update, and_true]
      by_cases ho : other = id
      · subst ho
        obtain ⟨s, hs⟩ := Option.isSome_iff_exists.1 (hheld hl.1)
        simp [hs]
      · simp [ho, Ne.symm ho]
    · simp [find_fst_iff, hl]
  | write other f =>
    simp only [lastUse, performLazily, use?, held?_update]
    split
    · rename_i ho
      subst ho
      cases st.held? id <;> simp
    · simp
  | _ => simp [lastUse, performLazily, use?, held?, keep, drop]

namespace IsHistory

theorem getLast?_uses (h : st.IsHistory ops) :
    (st.uses id ops).getLast? = (st.afterLazily ops).lastUse id := by
  induction ops using List.reverseRecOn with
  | nil => simp [uses, afterLazily, lastUse, h.isNew.unheld]
  | append_singleton ops op ih =>
    have hheld : id ∈ (st.afterLazily ops).stored → ((st.afterLazily ops).held? id).isSome :=
      isSome_held?_of_stored h.isNew h.init.wellFormed
    rw [getLast?_uses_concat, ih h.init, h.use?_after, afterLazily_concat,
      lastUse_performLazily hheld]

theorem isExpired_eq_false_iff (h : st.IsHistory ops) (ht : (st.timeout : Int) ≤ Session.longest)
    (hclock : Clocked (allReadings ops ++ [now])) {t : Int} (hlast : t ∈ (st.uses id ops).getLast?) :
    (st.afterLazily ops).isExpired now id = false ↔ Session.Within st.timeout t now := by
  have hmem := mem_allReadings_of_mem_uses (List.mem_of_getLast? hlast)
  obtain ⟨hle, hspan⟩ := (List.pairwise_append.1 hclock).2.2 t hmem now List.mem_cons_self
  rw [h.getLast?_uses, Option.mem_def, lastUse] at hlast
  obtain ⟨s, hs, rfl⟩ := Option.map_eq_some_iff.1 hlast
  rw [isExpired, hs, timeout_afterLazily]
  exact Session.isExpired_eq_false_iff ht hle hspan

/-- A session is found within the timeout of its last use, so the uses come in such intervals. -/
theorem isChain_uses (h : st.IsHistory ops) (ht : (st.timeout : Int) ≤ Session.longest) :
    (st.uses id ops).IsChain (Session.Within st.timeout) := by
  induction ops using List.reverseRecOn with
  | nil => exact .nil
  | append_singleton ops op ih =>
    have hsingle (o : Option Int) : o.toList.IsChain (Session.Within st.timeout) := by
      cases o <;> simp
    rw [uses_concat, List.isChain_append]
    refine ⟨ih h.init, hsingle _, fun t hlast u hu ↦ ?_⟩
    cases op with
    | start now other =>
      by_cases ho : other = id
      · -- A session that is started now was never used before.
        subst ho
        rw [h.init.getLast?_uses, Option.mem_def, lastUse] at hlast
        obtain ⟨s, hs, -⟩ := Option.map_eq_some_iff.1 hlast
        refine absurd ((isSome_held?_afterLazily_iff h.isNew).1 ?_) (h.wellFormed.unstarted rfl)
        rw [hs]
        rfl
      · simp [use?, ho] at hu
    | find now other =>
      have hclock := h.clocked_reading now List.mem_cons_self
      have hu' : (other = id ∧ ((st.after ops).find now other).1) ∧ now = u := by
        simpa [use?] using hu
      obtain ⟨⟨rfl, hfound⟩, rfl⟩ := hu'
      rw [find_fst_iff, (h.init.pruned_of_clocked hclock).isLive_iff] at hfound
      exact (h.init.isExpired_eq_false_iff ht hclock hlast).1 hfound.2
    | _ => simp [use?] at hu

theorem isSome_lookup_iff (h : st.IsHistory ops) :
    ((st.afterLazily ops).lookup now id).isSome ↔ (st.afterLazily ops).IsLive now id := by
  by_cases hl : (st.afterLazily ops).IsLive now id
  · have hheld := isSome_held?_of_stored h.isNew h.wellFormed hl.1
    simp [lookup_of_isLive hl, hl, hheld]
  · simp [lookup_of_not_isLive hl, hl]

end IsHistory

/-- Eviction is transparent. After any history, a look-up gives a session if and only if that was
adopted, not invalidated since, and used at intervals of at most the timeout, from its start up to
now; it gives what it would give if the store had never swept, and had only ever asked at a look-up
whether the session has expired. -/
theorem lookup_transparent (cookieName : String) {timeout : Nat}
    (ht : (timeout : Int) ≤ Session.longest) (begun : Int) {ops : List StoreOp}
    (hops : WellFormed ops) {now : Int} (hclock : Clocked (allReadings ops ++ [now])) (id : String) :
    let st := create cookieName timeout begun
    (((st.after ops).lookup now id).isSome ↔
      Kept ops id ∧ (st.uses id ops ++ [now]).IsChain (Session.Within timeout)) ∧
    (st.after ops).lookup now id = (st.afterLazily ops).lookup now id := by
  intro st
  have h : st.IsHistory ops :=
    ⟨isNew_create cookieName timeout begun, hops, (List.pairwise_append.1 hclock).1⟩
  have hp := h.pruned_of_clocked hclock
  refine ⟨?_, hp.lookup⟩
  rw [hp.lookup, h.isSome_lookup_iff, IsLive, mem_stored_afterLazily_iff h.isNew]
  refine and_congr_right fun hk ↦ ?_
  have hheld := (isSome_held?_afterLazily_iff h.isNew).2 (hops.started_of_kept hk)
  obtain ⟨s, hs⟩ := Option.isSome_iff_exists.1 hheld
  have hlast : (st.uses id ops).getLast? = some s.lastAccess := by
    rw [h.getLast?_uses, lastUse, hs]
    rfl
  rw [h.isExpired_eq_false_iff ht hclock hlast, List.isChain_append, hlast]
  constructor
  · intro hgap
    refine ⟨h.isChain_uses ht, .singleton now, fun t ht u hu ↦ ?_⟩
    obtain rfl : s.lastAccess = t := by simpa using ht
    obtain rfl : now = u := by simpa using hu
    exact hgap
  · rintro ⟨-, -, hgap⟩
    exact hgap _ rfl now rfl

/-! ### A sweep between two adoptions -/

def lateAdoption : List StoreOp :=
  [.start 0 "a", .start 5 "b", .adopt 6 6 "b", .start 10 "c", .adopt 12 12 "c", .find 30 "c",
    .adopt 40 41 "a"]

theorem lookup_transparent_of_lateAdoption :
    let st := create "id" 30 0
    (st.after lateAdoption).stored = ["c", "a"] ∧
    ((st.after lateAdoption).lookup 45 "c").isSome ∧
    ¬ ((st.after lateAdoption).lookup 45 "a").isSome := by
  intro st
  have ht : ((30 : Nat) : Int) ≤ Session.longest := by decide
  have hops : WellFormed lateAdoption := by
    refine ⟨by decide, fun past now swept id later he ↦ ?_⟩
    simp only [lateAdoption, List.cons_eq_append_iff, List.cons.injEq, reduceCtorEq, false_and,
      and_false, adopt.injEq, List.nil_eq, List.append_eq_nil_iff, exists_const, or_false,
      ↓existsAndEq, true_and, false_or] at he
    rcases he with ⟨past, rfl, ⟨rfl, ⟨-, -, rfl⟩, -⟩ | ⟨past, rfl, he⟩⟩
    · decide
    · rcases he with ⟨rfl, ⟨-, -, rfl⟩, -⟩ | ⟨rfl, ⟨-, -, rfl⟩, -⟩ <;> decide
  have hclock : Clocked (allReadings lateAdoption ++ [45]) := by
    simp [Clocked, allReadings, lateAdoption, StoreOp.readings, Session.longest]
  have hfound := (lookup_transparent "id" ht 0 hops hclock "c").1
  have hlate := (lookup_transparent "id" ht 0 hops hclock "a").1
  refine ⟨by decide, hfound.2 ⟨?_, by decide⟩, fun hs ↦ ?_⟩
  · exact ⟨[.start 0 "a", .start 5 "b", .adopt 6 6 "b", .start 10 "c"], 12, 12, _, rfl, by simp⟩
  · have hgap := (hlate.1 hs).2
    revert hgap
    decide

end SessionStore

end WebDispatch
