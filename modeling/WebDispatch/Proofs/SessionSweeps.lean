import Mathlib.Data.Finset.Card
import Mathlib.Data.List.Pairwise
import WebDispatch.Proofs.SessionExpiry

namespace WebDispatch

namespace StoreOp

/-- A session is adopted by those who hold it, so it was started before. -/
def AdoptsStarted (ops : List StoreOp) : Prop :=
  ∀ past now swept id later, ops = past ++ adopt now swept id :: later → id ∈ allStarted past

theorem AdoptsStarted.front {past later : List StoreOp} (h : AdoptsStarted (past ++ later)) :
    AdoptsStarted past := by
  intro before now swept id rest he
  apply h before now swept id (rest ++ later)
  rw [he, List.append_assoc, List.cons_append]

variable {past later : List StoreOp} {op : StoreOp} {begun : Int}

theorem Clocked.upTo (h : Clocked (begun :: allReadings (past ++ op :: later))) :
    Clocked (begun :: allReadings past ++ op.readings) := by
  have hsplit : begun :: allReadings (past ++ op :: later) =
      begun :: allReadings past ++ op.readings ++ allReadings later := by
    simp [allReadings]
  rw [hsplit] at h
  exact (List.pairwise_append.1 h).1

theorem Clocked.reading (h : Clocked (begun :: allReadings past ++ op.readings)) (t : Int)
    (ht : t ∈ op.readings) : Clocked (allReadings past ++ [t]) := by
  have hsub : (allReadings past ++ [t]).Sublist (begun :: allReadings past ++ op.readings) :=
    (List.sublist_cons_self begun _).append (List.singleton_sublist.2 ht)
  exact List.Pairwise.sublist hsub h

end StoreOp

namespace SessionStore

open StoreOp

variable {st : SessionStore} {now : Int} {ops : List StoreOp} {op : StoreOp} {id : String}

/-! ### One operation -/

theorem stored_find_sublist (st : SessionStore) (now : Int) (id : String) :
    (st.find now id).2.stored.Sublist st.stored := by
  unfold find
  split
  · split
    · exact List.filter_sublist
    · simp only [stored_update, List.Sublist.refl]
  · exact .refl _

theorem stored_sweptBetween_sublist (st : SessionStore) (now later : Int) :
    (st.sweptBetween now later).stored.Sublist st.stored := by
  unfold sweptBetween
  split
  · exact List.filter_sublist
  · exact .refl _

theorem nodup_keep (h : st.stored.Nodup) (id : String) : (st.keep id).stored.Nodup := by
  unfold keep
  split
  · exact h
  · rename_i hs
    rw [isStored_iff] at hs
    apply h.append (List.nodup_singleton id)
    intro other hm ho
    rw [List.mem_singleton.1 ho] at hm
    exact hs hm

theorem nodup_perform (h : st.stored.Nodup) (op : StoreOp) : (st.perform op).stored.Nodup := by
  cases op with
  | start now id => exact h
  | adopt now swept id => exact nodup_keep (h.sublist (st.stored_sweptBetween_sublist now swept)) id
  | find now id => exact h.sublist (st.stored_find_sublist now id)
  | invalidate id => exact h.sublist List.filter_sublist
  | evict now => exact h.sublist List.filter_sublist
  | write id f => simpa only [perform, stored_update] using h

theorem mem_stored_of_perform (h : id ∈ (st.perform op).stored) :
    id ∈ st.stored ∨ ∃ now swept, op = .adopt now swept id := by
  cases op with
  | start now other => exact .inl h
  | adopt now swept other =>
    rcases mem_stored_keep.1 h with ho | hm
    · exact .inr ⟨now, swept, by rw [ho]⟩
    · exact .inl ((st.stored_sweptBetween_sublist now swept).subset hm)
  | find now other => exact .inl ((st.stored_find_sublist now other).subset h)
  | invalidate other => exact .inl (List.filter_sublist.subset h)
  | evict now => exact .inl (List.filter_sublist.subset h)
  | write other f =>
    simp only [perform, stored_update] at h
    exact .inl h

theorem held?_perform (st : SessionStore) (op : StoreOp) (id : String) :
    (st.perform op).held? id = (st.performLazily op).held? id := by
  cases op with
  | adopt now swept other => exact (st.pruned_sweptBetween now swept).held? id
  | find now other =>
    by_cases hl : st.IsLive now other
    · simp only [perform, performLazily, find_of_isLive hl, if_true]
    · obtain ⟨st', hp, hf⟩ := find_of_not_isLive hl
      simp only [perform, performLazily, hf, Bool.false_eq_true, if_false]
      exact hp.held? id
  | _ => rfl

theorem timeout_perform (st : SessionStore) (op : StoreOp) :
    (st.perform op).timeout = st.timeout := by
  cases op with
  | adopt now swept other => exact (st.pruned_sweptBetween now swept).timeout
  | find now other =>
    by_cases hl : st.IsLive now other
    · simp only [perform, find_of_isLive hl, timeout_update]
    · obtain ⟨st', hp, hf⟩ := find_of_not_isLive hl
      simp only [perform, hf, hp.timeout]
  | write other f => exact timeout_update ..
  | _ => rfl

theorem lastUse_perform (hheld : id ∈ st.stored → (st.held? id).isSome) :
    (st.perform op).lastUse id = (st.use? id op).or (st.lastUse id) := by
  rw [← lastUse_performLazily hheld, lastUse, lastUse, held?_perform]

/-! ### A run of operations -/

theorem nodup_after (h : st.IsNew) : (st.after ops).stored.Nodup := by
  induction ops using List.reverseRecOn with
  | nil =>
    rw [after, List.foldl_nil, h.unstored]
    exact List.nodup_nil
  | append_singleton ops op ih =>
    rw [after_concat]
    exact nodup_perform ih op

theorem timeout_after (st : SessionStore) (ops : List StoreOp) :
    (st.after ops).timeout = st.timeout := by
  induction ops using List.reverseRecOn with
  | nil => rfl
  | append_singleton ops op ih => rw [after_concat, timeout_perform, ih]

theorem isSome_held?_after_iff (h : st.IsNew) :
    ((st.after ops).held? id).isSome ↔ id ∈ allStarted ops := by
  induction ops using List.reverseRecOn with
  | nil => simp [after, h.unheld, allStarted]
  | append_singleton ops op ih =>
    rw [after_concat, held?_perform, isSome_held?_performLazily_iff, ih, mem_allStarted_concat]

theorem started_of_stored (h : st.IsNew) (hops : AdoptsStarted ops)
    (hm : id ∈ (st.after ops).stored) : id ∈ allStarted ops := by
  induction ops using List.reverseRecOn with
  | nil =>
    rw [after, List.foldl_nil, h.unstored] at hm
    exact absurd hm List.not_mem_nil
  | append_singleton ops op ih =>
    rw [mem_allStarted_concat]
    rw [after_concat] at hm
    rcases mem_stored_of_perform hm with hm | ⟨now, swept, rfl⟩
    · exact .inl (ih hops.front hm)
    · exact .inl (hops ops now swept id [] rfl)

theorem lastUse_after (h : st.IsNew) (hops : AdoptsStarted ops) :
    (st.after ops).lastUse id = (st.uses id ops).getLast? := by
  induction ops using List.reverseRecOn with
  | nil => simp [uses, after, lastUse, h.unheld]
  | append_singleton ops op ih =>
    have hheld : id ∈ (st.after ops).stored → ((st.after ops).held? id).isSome := by
      intro hm
      rw [isSome_held?_after_iff h]
      exact started_of_stored h hops.front hm
    rw [after_concat, lastUse_perform hheld, ih hops.front, getLast?_uses_concat]

theorem exists_last_use (h : st.IsNew) (hops : AdoptsStarted ops)
    (ht : (st.timeout : Int) ≤ Session.longest) (hclock : Clocked (allReadings ops ++ [now]))
    (hm : id ∈ (st.after ops).stored) :
    ∃ t, (st.uses id ops).getLast? = some t ∧ t ≤ now ∧
      ((st.after ops).isExpired now id = false ↔ now - t ≤ st.timeout) := by
  obtain ⟨s, hs⟩ := Option.isSome_iff_exists.1
    ((isSome_held?_after_iff h).2 (started_of_stored h hops hm))
  have hlast : (st.uses id ops).getLast? = some s.lastAccess := by
    rw [← lastUse_after h hops, lastUse, hs, Option.map_some]
  have hread := mem_allReadings_of_mem_uses (List.mem_of_getLast? hlast)
  obtain ⟨hle, hspan⟩ :=
    (List.pairwise_append.1 hclock).2.2 s.lastAccess hread now List.mem_cons_self
  refine ⟨s.lastAccess, hlast, hle, ?_⟩
  rw [isExpired, hs, timeout_after]
  exact Session.isExpired_eq_false_iff ht hle hspan

/-! ### Sweeps -/

/-- The instant at which an operation sweeps the store. -/
def sweep? (st : SessionStore) : StoreOp → Option Int
  | .adopt now swept _ => if st.isSweepDue now then some swept else none
  | .evict now => some now
  | _ => none

def sweeps (st : SessionStore) : List StoreOp → List Int
  | [] => []
  | op :: ops => (st.sweep? op).toList ++ (st.perform op).sweeps ops

theorem sweeps_sublist (st : SessionStore) (ops : List StoreOp) :
    (st.sweeps ops).Sublist (allReadings ops) := by
  induction ops generalizing st with
  | nil => exact .refl _
  | cons op ops ih =>
    have hop : (st.sweep? op).toList.Sublist op.readings := by
      cases op with
      | adopt now swept other =>
        simp only [sweep?, StoreOp.readings]
        split <;> simp
      | _ => simp [sweep?, StoreOp.readings]
    simp only [sweeps, allReadings, List.flatMap_cons]
    exact hop.append (ih _)

theorem lastSweep_perform (st : SessionStore) (op : StoreOp) :
    (st.perform op).lastSweep = (st.sweep? op).getD st.lastSweep := by
  cases op with
  | adopt now swept other =>
    simp only [perform, sweep?, keep, sweptBetween]
    split <;> rfl
  | find now other =>
    simp only [perform, sweep?, find, Option.getD_none]
    split
    · split
      · rfl
      · exact lastSweep_update ..
    · rfl
  | write other f => exact lastSweep_update ..
  | _ => rfl

/-- The mark of the last sweep is the creation of the store as long as there was none. -/
theorem lastSweep_after (st : SessionStore) (ops : List StoreOp) :
    (st.after ops).lastSweep = (st.lastSweep :: st.sweeps ops).getLast (List.cons_ne_nil _ _) := by
  induction ops generalizing st with
  | nil => rfl
  | cons op ops ih =>
    have hcons : st.after (op :: ops) = (st.perform op).after ops := by
      simp only [after, List.foldl_cons]
    rw [hcons, ih, lastSweep_perform]
    cases hs : st.sweep? op with
    | none => simp [sweeps, hs]
    | some t => simp [sweeps, hs]

theorem isSweepDue_iff (ht : (st.timeout : Int) ≤ Session.longest) :
    st.isSweepDue now = true ↔ st.timeout ≤ now - st.lastSweep := by
  rw [isSweepDue, decide_eq_true_iff, Session.timeoutBits_eq_self ht, Session.saturate]
  simp only [Session.longest] at ht
  omega

theorem isSweepDue_after_iff (ht : (st.timeout : Int) ≤ Session.longest)
    (hclock : Clocked (st.lastSweep :: allReadings ops)) :
    (st.after ops).isSweepDue now = true ↔
      ∀ t ∈ st.lastSweep :: st.sweeps ops, st.timeout ≤ now - t := by
  have hsorted : (st.lastSweep :: st.sweeps ops).Pairwise (· ≤ ·) := by
    have hmarks := (st.sweeps_sublist ops).cons_cons st.lastSweep
    exact (List.Pairwise.sublist hmarks hclock).imp And.left
  have hafter := timeout_after st ops
  rw [isSweepDue_iff (by rwa [hafter]), hafter, lastSweep_after]
  constructor
  · intro h t hm
    have hle : t ≤ _ := hsorted.rel_getLast hm
    omega
  · intro h
    exact h _ (List.getLast_mem _)

/-! ### Evictions -/

theorem evicted_eq_card (h : st.stored.Nodup) (now : Int) :
    st.evicted now = (st.stored.toFinset \ (st.evict now).stored.toFinset).card := by
  have hsub : (st.evict now).stored.Sublist st.stored := List.filter_sublist
  have hkept : (st.evict now).stored.toFinset ⊆ st.stored.toFinset := by
    intro id hm
    rw [List.mem_toFinset] at hm ⊢
    exact hsub.subset hm
  rw [Finset.card_sdiff_of_subset hkept, List.toFinset_card_of_nodup h,
    List.toFinset_card_of_nodup (h.sublist hsub), evicted, size, size]

theorem mem_stored_sweptBetween_of_due {later : Int} (hdue : st.isSweepDue now = true) :
    id ∈ (st.sweptBetween now later).stored ↔ id ∈ st.stored ∧ st.isExpired later id = false := by
  rw [sweptBetween, if_pos hdue, mem_stored_evict]

theorem exists_use_of_swept (h : st.IsNew) {past : List StoreOp} (hops : AdoptsStarted past)
    (ht : (st.timeout : Int) ≤ Session.longest) {swept : Int}
    (hclock : Clocked (allReadings past ++ [swept])) (hdue : (st.after past).isSweepDue now = true)
    {other : String} (hm : other ∈ (st.after (past ++ [.adopt now swept id])).stored)
    (hne : other ≠ id) : ∃ t ∈ st.uses other past, t ≤ swept ∧ swept - t ≤ st.timeout := by
  rw [after_concat, perform, mem_stored_keep, mem_stored_sweptBetween_of_due hdue] at hm
  obtain ⟨hstored, hlive⟩ := hm.resolve_left hne
  obtain ⟨t, hlast, htle, hexpired⟩ := exists_last_use h hops ht hclock hstored
  exact ⟨t, List.mem_of_getLast? hlast, htle, hexpired.1 hlive⟩

theorem evict_exact (h : st.IsNew) {past : List StoreOp} (hops : AdoptsStarted past)
    (ht : (st.timeout : Int) ≤ Session.longest) (hclock : Clocked (allReadings past ++ [now])) :
    let kept := (st.after (past ++ [.evict now])).stored
    (st.after past).evicted now = ((st.after past).stored.toFinset \ kept.toFinset).card ∧
    kept ⊆ (st.after past).stored ∧
    ∀ id ∈ (st.after past).stored, ∃ t, (st.uses id past).getLast? = some t ∧
      (id ∉ kept ↔ st.timeout < now - t) := by
  intro kept
  have hkept : kept = ((st.after past).evict now).stored := by
    simp only [kept, after_concat, perform]
  rw [hkept]
  refine ⟨evicted_eq_card (nodup_after h) now, List.filter_subset_self _, ?_⟩
  intro id hm
  obtain ⟨t, hlast, -, hexpired⟩ := exists_last_use h hops ht hclock hm
  refine ⟨t, hlast, ?_⟩
  rw [mem_stored_evict, hexpired]
  simp only [hm, true_and, not_le]

/-- Sweeps are spaced and complete. An adoption sweeps the store exactly if the timeout has passed
since the store was created, and since it was swept before, be it by an adoption or because an
eviction was asked for. No session stays in a sweep that was not used within the timeout, but for the
one that is adopted. An eviction counts the sessions that it removes, and these are the expired
ones. -/
theorem sweeps_spaced_and_complete (cookieName : String) {timeout : Nat}
    (ht : (timeout : Int) ≤ Session.longest) (begun : Int) {ops : List StoreOp}
    (hops : AdoptsStarted ops) (hclock : Clocked (begun :: allReadings ops)) :
    let st := create cookieName timeout begun
    (∀ past now swept id later, ops = past ++ .adopt now swept id :: later →
      ((st.after past).sweep? (.adopt now swept id) = some swept ↔
        ∀ t ∈ begun :: st.sweeps past, timeout ≤ now - t) ∧
      ((st.after past).sweep? (.adopt now swept id) = some swept →
        now ≤ swept ∧ ∀ other ∈ (st.after (past ++ [.adopt now swept id])).stored, other ≠ id →
          ∃ t ∈ st.uses other past, t ≤ swept ∧ swept - t ≤ timeout)) ∧
    ∀ past now later, ops = past ++ .evict now :: later →
      let kept := (st.after (past ++ [.evict now])).stored
      (st.after past).evicted now = ((st.after past).stored.toFinset \ kept.toFinset).card ∧
      kept ⊆ (st.after past).stored ∧
      ∀ id ∈ (st.after past).stored, ∃ t, (st.uses id past).getLast? = some t ∧
        (id ∉ kept ↔ timeout < now - t) := by
  intro st
  have hnew : st.IsNew := isNew_create cookieName timeout begun
  refine ⟨?_, ?_⟩
  · intro past now swept id later he
    subst he
    have hread := hclock.upTo
    have hpast : Clocked (begun :: allReadings past) := (List.pairwise_append.1 hread).1
    have hle : now ≤ swept := by
      have hpair := (List.pairwise_append.1 hread).2.1
      simp only [StoreOp.readings, List.pairwise_cons] at hpair
      exact (hpair.1 swept List.mem_cons_self).1
    have hsweep : (st.after past).sweep? (.adopt now swept id) = some swept ↔
        (st.after past).isSweepDue now = true := by
      simp [sweep?]
    refine ⟨hsweep.trans (isSweepDue_after_iff ht hpast), ?_⟩
    intro h
    refine ⟨hle, ?_⟩
    intro other hm hne
    have hnow : Clocked (allReadings past ++ [swept]) := by
      apply hread.reading swept
      simp [StoreOp.readings]
    exact exists_use_of_swept hnew hops.front ht hnow (hsweep.1 h) hm hne
  · intro past now later he
    subst he
    have hnow : Clocked (allReadings past ++ [now]) := by
      apply hclock.upTo.reading now
      simp [StoreOp.readings]
    exact evict_exact hnew hops.front ht hnow

/-! ### A sweep and an eviction -/

def threeAdoptions : List StoreOp :=
  [.start 0 "a", .adopt 1 1 "a", .start 10 "b", .adopt 12 12 "b", .find 20 "b", .start 31 "c"]

theorem sweeps_spaced_and_complete_of_threeAdoptions :
    let st := create "id" 30 0
    let swept := threeAdoptions ++ [.adopt 32 33 "c"]
    ((st.after threeAdoptions).stored = ["a", "b"] ∧ (st.after swept).stored = ["b", "c"] ∧
      ∃ t ∈ st.uses "b" threeAdoptions, t ≤ 33 ∧ 33 - t ≤ 30) ∧
    (st.after swept).evicted 55 =
      ((st.after swept).stored.toFinset \ (st.after (swept ++ [.evict 55])).stored.toFinset).card ∧
    (st.after swept).evicted 55 = 1 := by
  intro st swept
  have hops : AdoptsStarted (swept ++ [.evict 55]) := by
    intro past now instant id later he
    simp only [swept, threeAdoptions, List.cons_append, List.nil_append, List.cons_eq_append_iff,
      List.cons.injEq, reduceCtorEq, false_and, and_false, StoreOp.adopt.injEq, List.nil_eq,
      List.append_eq_nil_iff, exists_const, or_false, ↓existsAndEq, true_and, false_or] at he
    obtain ⟨_, rfl, ⟨rfl, ⟨-, -, rfl⟩, -⟩ | ⟨_, rfl, he⟩⟩ := he
    · decide
    · obtain ⟨rfl, ⟨-, -, rfl⟩, -⟩ | ⟨rfl, ⟨-, -, rfl⟩, -⟩ := he <;> decide
  have hclock : Clocked (0 :: allReadings (swept ++ [.evict 55])) := by
    simp [Clocked, allReadings, swept, threeAdoptions, StoreOp.readings, Session.longest]
  have ht : ((30 : Nat) : Int) ≤ Session.longest := by decide
  obtain ⟨hsweeps, hevictions⟩ := sweeps_spaced_and_complete "id" ht 0 hops hclock
  obtain ⟨hdue, hused⟩ := hsweeps threeAdoptions 32 33 "c" [.evict 55] rfl
  obtain ⟨-, hleft⟩ := hused (hdue.2 (by decide))
  obtain ⟨hcount, -⟩ := hevictions swept 55 [] rfl
  refine ⟨⟨by decide, by decide, hleft "b" (by decide) (by decide)⟩, hcount, by decide⟩

end SessionStore

end WebDispatch
