import WebDispatch.Dispatcher
import WebDispatch.Proofs.SessionExpiry
import WebDispatch.Proofs.SettingsVariables

namespace WebDispatch

variable {σ : Type}

/-! ### Timeouts that settings accept -/

namespace Settings

theorem exists_seconds {processors : Nat} {lookup : String → Option String} {settings : Settings}
    (h : ofLookup processors lookup = .ok settings) :
    ∃ seconds ≤ maxNumber, settings.sessionTimeout = seconds * 1000 := by
  obtain ⟨seconds, hseconds, htimeout⟩ := (ofLookup_eq_ok_iff.1 h).sessionTimeout
  refine ⟨seconds, ?_, htimeout⟩
  cases hseconds with
  | unset => decide
  | set htext hsaid hadmits => exact lt_iff_le_maxNumber.1 hadmits.1

end Settings

/-! ### The check of a session -/

namespace Session

/-- What a clock reads: milliseconds in 64 bits with sign. -/
def IsReading (t : Int) : Prop :=
  -longest - 1 ≤ t ∧ t ≤ longest

theorem isReading_timeoutBits (timeout : Nat) : IsReading (timeoutBits timeout) :=
  ⟨Int.le_bmod (m := 0x10000000000000000) (by decide),
    Int.le_of_lt_add_one (Int.bmod_lt (m := 0x10000000000000000) (by decide))⟩

theorem timeoutBits_emod (timeout : Nat) :
    timeoutBits timeout % 0x10000000000000000 = timeout % 0x10000000000000000 :=
  Int.bmod_emod

/-- Whole seconds are narrowed to an even number of milliseconds, which is not the longest time. -/
theorem timeoutBits_seconds_lt (seconds : Nat) : timeoutBits (seconds * 1000) < longest := by
  have hle := (isReading_timeoutBits (seconds * 1000)).2
  refine Int.lt_iff_le_and_ne.2 ⟨hle, fun h ↦ ?_⟩
  have hmod := timeoutBits_emod (seconds * 1000)
  rw [h, longest] at hmod
  omega

theorem isExpired_seconds_iff (s : Session) (now : Int) (seconds : Nat) :
    s.isExpired now (seconds * 1000) = true ↔
      timeoutBits (seconds * 1000) < now - s.lastAccess := by
  have hlow := (isReading_timeoutBits (seconds * 1000)).1
  have hhigh := timeoutBits_seconds_lt seconds
  simp only [longest] at hlow hhigh
  -- A difference is cut off only where it is out of the reach of every narrowed timeout.
  rw [isExpired, decide_eq_true_iff, saturate]
  omega

theorem exists_expired_too_soon {seconds : Nat} (h : longest < (seconds * 1000 : Nat)) :
    ∃ (s : Session) (now : Int), IsReading s.lastAccess ∧ IsReading now ∧
      s.isExpired now (seconds * 1000) = true ∧ now - s.lastAccess ≤ (seconds * 1000 : Nat) := by
  refine ⟨⟨"", {}, 0⟩, longest, ⟨by decide, by decide⟩, ⟨by decide, by decide⟩, ?_, ?_⟩
  · rw [isExpired_seconds_iff]
    exact timeoutBits_seconds_lt seconds
  · exact Int.le_of_lt h

theorem isExpired_lastAccess {s : Session} {timeout : Nat} (h : (timeout : Int) ≤ longest) :
    s.isExpired s.lastAccess timeout = false := by
  have hnow : s.lastAccess - s.lastAccess ≤ longest := by
    rw [Int.sub_self]
    decide
  rw [isExpired_eq_false_iff h (Int.le_refl _) hnow, Within, Int.sub_self]
  exact Int.natCast_nonneg timeout

end Session

theorem SessionStore.find_fst_iff_of_held {st : SessionStore} {now : Int} {id : String}
    {s : Session} (hstored : st.isStored id = true) (hheld : st.held? id = some s) :
    (st.find now id).1 = true ↔ s.isExpired now st.timeout = false := by
  have hexpired : st.isExpired now id = s.isExpired now st.timeout := by
    rw [SessionStore.isExpired, hheld]
  rw [find_fst_iff, ← hexpired]
  exact ⟨And.right, fun h ↦ ⟨(st.isStored_iff id).1 hstored, h⟩⟩

theorem SessionStore.find_find {st : SessionStore} {now : Int} {id : String}
    (h : (st.timeout : Int) ≤ Session.longest) (hf : (st.find now id).1 = true) :
    ((st.find now id).2.find now id).1 = true := by
  have hl := find_fst_iff.1 hf
  rw [find_of_isLive hl, find_fst_iff]
  refine ⟨?_, ?_⟩
  · rw [stored_update]
    exact hl.1
  · rw [isExpired, held?_update, if_pos rfl, timeout_update]
    cases st.held? id with
    | none => rfl
    | some s => exact Session.isExpired_lastAccess h

namespace Settings

/-- Expiry is exact if the milliseconds of the timeout fit in 64 bits with sign: a session has
expired when it was idle for longer than the timeout, and a stored one is found until then. So one that
is looked up twice at once is found again, and a longer timeout leaves it at least as much time.
Otherwise the narrowed timeout takes the place of the true one, and there is a session that expires too
soon. -/
theorem expiry_exact_unless_narrowed {processors : Nat} {lookup : String → Option String}
    {settings : Settings} (h : ofLookup processors lookup = .ok settings) :
    let timeout := settings.sessionTimeout
    (∃ seconds ≤ maxNumber, timeout = seconds * 1000) ∧
    (∀ (r : Registry σ) app now ids, r.settings = settings →
      (r.world app now ids).sessions.timeout = timeout) ∧
    (∀ (s : Session) (now : Int), s.isExpired now timeout = true ↔
      Session.timeoutBits timeout < now - s.lastAccess) ∧
    ((timeout : Int) ≤ Session.longest →
      (∀ (s : Session) (now : Int),
        s.isExpired now timeout = true ↔ (timeout : Int) < now - s.lastAccess) ∧
      (∀ (st : SessionStore) now id s, st.timeout = timeout → st.isStored id = true →
        st.held? id = some s →
          ((st.find now id).1 = true ↔ now - s.lastAccess ≤ (timeout : Int))) ∧
      (∀ (st : SessionStore) now id, st.timeout = timeout → (st.find now id).1 = true →
        ((st.find now id).2.find now id).1 = true) ∧
      ∀ processors' lookup' settings', ofLookup processors' lookup' = .ok settings' →
        timeout ≤ settings'.sessionTimeout →
        (settings'.sessionTimeout : Int) ≤ Session.longest → ∀ (s : Session) (now : Int),
          s.isExpired now settings'.sessionTimeout = true → s.isExpired now timeout = true) ∧
    (Session.longest < timeout → ∃ (s : Session) (now : Int),
      Session.IsReading s.lastAccess ∧ Session.IsReading now ∧
        s.isExpired now timeout = true ∧ now - s.lastAccess ≤ timeout) := by
  intro timeout
  obtain ⟨seconds, hle, ht⟩ := exists_seconds h
  have hnarrowed (s : Session) (now : Int) : s.isExpired now timeout = true ↔
      Session.timeoutBits timeout < now - s.lastAccess := by
    rw [show timeout = seconds * 1000 from ht, Session.isExpired_seconds_iff]
  refine ⟨⟨seconds, hle, ht⟩, ?_, hnarrowed, fun hfits ↦ ?_, fun hlong ↦ ?_⟩
  · rintro r app now ids rfl
    rfl
  · have hexact (s : Session) (now : Int) :
        s.isExpired now timeout = true ↔ (timeout : Int) < now - s.lastAccess := by
      rw [hnarrowed, Session.timeoutBits_eq_self hfits]
    refine ⟨hexact, ?_, ?_, ?_⟩
    · intro st now id s hst hstored hheld
      rw [SessionStore.find_fst_iff_of_held hstored hheld, hst, ← Bool.not_eq_true, hexact,
        Int.not_lt]
    · intro st now id hst
      exact SessionStore.find_find (hst ▸ hfits)
    · intro processors' lookup' settings' h' hlonger hfits' s now he
      obtain ⟨seconds', -, ht'⟩ := exists_seconds h'
      rw [ht', Session.isExpired_seconds_iff, ← ht', Session.timeoutBits_eq_self hfits'] at he
      rw [hexact]
      omega
  · rw [show timeout = seconds * 1000 from ht] at hlong ⊢
    exact Session.exists_expired_too_soon hlong

/-! ### The greatest timeout that fits, and the greatest of all -/

def withTimeout (seconds : String) : String → Option String :=
  fun key ↦ if key = sessionTimeoutKey then some seconds else none

theorem ofLookup_greatestFit : ofLookup 1 (withTimeout "9223372036854775") =
    .ok { workerThreads := 1, sessionTimeout := 9223372036854775000 } := by
  rfl

theorem expiry_exact_of_greatestFit :
    let s : Session := ⟨"a", {}, -1⟩
    s.isExpired 9223372036854774999 9223372036854775000 = false ∧
      s.isExpired 9223372036854775000 9223372036854775000 = true := by
  intro s
  obtain ⟨-, -, -, hfits, -⟩ := expiry_exact_unless_narrowed (σ := Unit) ofLookup_greatestFit
  have hexact := (hfits (by decide)).1
  refine ⟨?_, (hexact s _).2 (by decide)⟩
  rw [← Bool.not_eq_true]
  exact fun he ↦ absurd ((hexact s _).1 he) (by decide)

theorem expired_without_idle_time :
    ∃ settings, ofLookup 1 (withTimeout "18446744073709551615") = .ok settings ∧
      settings.sessionTimeout = 18446744073709551615 * 1000 ∧
      let st := ((SessionStore.create "id" settings.sessionTimeout 0).start 0 "a").adopt 0 "a"
      st.isStored "a" = true ∧ (st.held? "a").map Session.lastAccess = some 0 ∧
        (st.find 0 "a").1 = false ∧ ¬ (settings.sessionTimeout : Int) < 0 - 0 :=
  ⟨{ workerThreads := 1, sessionTimeout := 18446744073709551615 * 1000 }, rfl, rfl, by decide⟩

end Settings

end WebDispatch
