import WebDispatch.Proofs.ChainLogs

namespace WebDispatch

variable {σ : Type}

/-- The function of the wrapper at a place runs and ends without passing control inwards. -/
structure Descent.ShortCircuits (d : Descent σ) (place : Nat) : Prop where
  function : .function place ∈ d.visits
  next : .next place ∉ d.visits

theorem WrapperEntry.next_mem_of_inward {w : WrapperEntry σ} {place : Nat} {s : Scene σ}
    {resume : Option (Resume σ)} (h : (w.call place s).2.1 = .inward resume) :
    .next place ∈ (w.call place s).1 := by
  unfold call at h ⊢
  split at h
  · simp at h
  · split at h <;> simp at h ⊢

theorem Layer.next_mem_of_inward {l : Layer σ} {place : Nat} {s : Scene σ}
    {resume : Option (Resume σ)} (h : (l.enter place s).2.1 = .inward resume)
    (hf : .function place ∈ (l.enter place s).1) : .next place ∈ (l.enter place s).1 := by
  cases l with
  | wrapper w =>
    cases hp : w.predicate with
    | none =>
      simp only [enter, WrapperEntry.enter, hp] at h ⊢
      exact w.next_mem_of_inward h
    | some p =>
      simp only [enter, WrapperEntry.enter, hp] at h hf ⊢
      cases hy : p s.exchange s.world.app with
      | mk yes a =>
        simp only [hy] at h hf ⊢
        cases yes with
        | true => exact List.mem_cons_of_mem _ (w.next_mem_of_inward h)
        | false => simp at hf
  | enclosure e =>
    simp only [enter] at hf
    split at hf <;> simp at hf

theorem Layer.place?_of_mem_enter {l : Layer σ} {place : Nat} {s : Scene σ} {v : Visit}
    (h : v ∈ (l.enter place s).1) : v.place? = some place :=
  place?_of_mem_partsAt ((l.enter_sublist place s).subset h)

theorem Layer.wrap_of_stop {l : Layer σ} {place : Nat} {s t : Scene σ} {visits : List Visit}
    {o : Outcome Unit} (h : l.enter place s = (visits, .stop o, t)) (inner inner' : Handler σ) :
    l.wrap inner s = l.wrap inner' s := by
  rw [l.wrap_apply place inner, l.wrap_apply place inner', h]
  rfl

theorem Layer.wrap_of_inward {l : Layer σ} {place : Nat} {s t : Scene σ} {visits : List Visit}
    {resume : Option (Resume σ)} (h : l.enter place s = (visits, .inward resume, t))
    {inner inner' : Handler σ} (ht : inner t = inner' t) : l.wrap inner s = l.wrap inner' s := by
  rw [l.wrap_apply place inner, l.wrap_apply place inner', h]
  cases resume with
  | none => exact ht
  | some resume => simp only [Passage.finish, ht]

theorem enter_of_shortCircuits {l : Layer σ} {inner : List (Layer σ)} {s : Scene σ}
    (h : (descend (l :: inner) s).ShortCircuits inner.length) :
    ∃ visits o t, l.enter inner.length s = (visits, .stop o, t) := by
  obtain ⟨hf, hn⟩ := h
  rcases hr : l.enter inner.length s with ⟨visits, passage, t⟩
  cases passage with
  | stop o => exact ⟨visits, o, t, rfl⟩
  | inward resume =>
    rw [descend_cons_inward hr] at hf hn
    rcases List.mem_append.1 hf with hf | hf
    · have hin : (l.enter inner.length s).2.1 = .inward resume := by rw [hr]
      have hnext := Layer.next_mem_of_inward hin (by rw [hr]; exact hf)
      rw [hr] at hnext
      exact absurd (List.mem_append_left _ hnext) hn
    · obtain ⟨i, hi, hp⟩ := place?_of_mem_partsOf ((descend_sublist inner t).subset hf)
      have : inner.length = i := Option.some.inj hp
      omega

theorem enter_of_mem_visits {l : Layer σ} {ls : List (Layer σ)} {s : Scene σ} {v : Visit}
    (hv : v ∈ (descend (l :: ls) s).visits) (hp : v.place? ≠ some ls.length) :
    ∃ visits resume t, l.enter ls.length s = (visits, .inward resume, t) ∧
      v ∈ (descend ls t).visits := by
  have hnot : v ∉ (l.enter ls.length s).1 := fun hm ↦ hp (Layer.place?_of_mem_enter hm)
  rcases hr : l.enter ls.length s with ⟨visits, passage, t⟩
  rw [hr] at hnot
  cases passage with
  | stop o =>
    rw [descend_cons_stop hr] at hv
    exact absurd hv hnot
  | inward resume =>
    rw [descend_cons_inward hr] at hv
    exact ⟨visits, resume, t, rfl, (List.mem_append.1 hv).resolve_left hnot⟩

theorem le_place_of_mem_visits {l : Layer σ} {ls : List (Layer σ)} {s : Scene σ} {n : Nat}
    (hn : n ≤ ls.length)
    (hrest : ∀ visits resume t, l.enter ls.length s = (visits, .inward resume, t) →
      ∀ v ∈ (descend ls t).visits, ∀ i, v.place? = some i → n ≤ i) :
    ∀ v ∈ (descend (l :: ls) s).visits, ∀ i, v.place? = some i → n ≤ i := by
  intro v hv i hi
  by_cases hp : v.place? = some ls.length
  · have : ls.length = i := Option.some.inj (hp.symm.trans hi)
    omega
  · obtain ⟨visits, resume, t, hr, hm⟩ := enter_of_mem_visits hv hp
    exact hrest visits resume t hr v hm i hi

theorem descend_of_shortCircuits {outer inner : List (Layer σ)} {l : Layer σ} {s : Scene σ}
    (h : (descend (outer ++ l :: inner) s).ShortCircuits inner.length) :
    (descend (outer ++ l :: inner) s).stopped ≠ none ∧
    (∀ v ∈ (descend (outer ++ l :: inner) s).visits, ∀ i, v.place? = some i → inner.length ≤ i) ∧
    ∀ rest rest' : Handler σ, outer.foldr (fun l inner ↦ l.wrap inner) (l.wrap rest) s =
      outer.foldr (fun l inner ↦ l.wrap inner) (l.wrap rest') s := by
  induction outer generalizing s with
  | nil =>
    obtain ⟨visits, o, t, hr⟩ := enter_of_shortCircuits h
    refine ⟨?_, le_place_of_mem_visits (Nat.le_refl _) fun visits' resume t' hr' ↦ ?_,
      Layer.wrap_of_stop hr⟩
    · rw [List.nil_append, descend_cons_stop hr]
      exact Option.some_ne_none o
    · simp [hr] at hr'
  | cons l' outer ih =>
    -- This layer passes the request on, since otherwise the function would not run.
    have hlt : inner.length < (outer ++ l :: inner).length := by simp; omega
    have hne : Visit.place? (.function inner.length) ≠ some (outer ++ l :: inner).length :=
      fun he ↦ absurd (Option.some.inj he) (Nat.ne_of_lt hlt)
    rw [List.cons_append] at h ⊢
    obtain ⟨visits, resume, t, hr, hf⟩ := enter_of_mem_visits h.function hne
    have hn := h.next
    rw [descend_cons_inward hr] at hn
    obtain ⟨hs, hp, hw⟩ := ih ⟨hf, fun hm ↦ hn (List.mem_append_right _ hm)⟩
    refine ⟨?_, le_place_of_mem_visits (Nat.le_of_lt hlt) fun visits' resume' t' hr' ↦ ?_,
      fun rest rest' ↦ Layer.wrap_of_inward hr (hw rest rest')⟩
    · rw [descend_cons_inward hr]
      exact hs
    · obtain rfl : t = t' := congrArg (·.2.2) (hr.symm.trans hr')
      exact hp

theorem layers_append_cons (before after : List (WrapperEntry σ)) (w : WrapperEntry σ)
    (enclosures : List (Enclosure σ)) :
    layers (before ++ w :: after) enclosures =
      before.map .wrapper ++ .wrapper w :: layers after enclosures := by
  simp [layers]

theorem composeChain_append_cons (terminal : Handler σ) (before after : List (WrapperEntry σ))
    (w : WrapperEntry σ) (enclosures : List (Enclosure σ)) :
    composeChain terminal (before ++ w :: after) (enclosures.map Enclosure.wrap) =
      (layers after enclosures).reverse.foldr (fun l inner ↦ l.wrap inner)
        ((Layer.wrapper w).wrap (before.foldl (fun inner w ↦ w.wrap inner) terminal)) := by
  rw [composeChain_eq_foldl, layers_append_cons, List.foldl_append, List.foldl_cons,
    List.foldl_map, List.foldr_reverse]
  rfl

theorem composeChain_of_shortCircuits {before after : List (WrapperEntry σ)} {w : WrapperEntry σ}
    {enclosures : List (Enclosure σ)} {s : Scene σ}
    (h : (approach (before ++ w :: after) enclosures s).ShortCircuits before.length) :
    .terminal ∉ (approach (before ++ w :: after) enclosures s).allVisits ∧
    (∀ j < before.length, ∀ v ∈ (approach (before ++ w :: after) enclosures s).allVisits,
      v.place? ≠ some j) ∧
    ∀ terminal terminal' before',
      composeChain terminal (before ++ w :: after) (enclosures.map Enclosure.wrap) s =
        composeChain terminal' (before' ++ w :: after) (enclosures.map Enclosure.wrap) s := by
  have hr : (layers (before ++ w :: after) enclosures).reverse =
      (layers after enclosures).reverse ++ .wrapper w :: (before.map .wrapper).reverse := by
    simp [layers_append_cons]
  have hl : before.length = (before.map Layer.wrapper).reverse.length := by simp
  rw [approach, hr] at h ⊢
  rw [hl] at h ⊢
  obtain ⟨hs, hp, hw⟩ := descend_of_shortCircuits h
  generalize hd : descend ((layers after enclosures).reverse ++
    .wrapper w :: (before.map .wrapper).reverse) s = d at hs hp
  have hv : d.allVisits = d.visits := by
    cases ho : d.stopped with
    | none => exact absurd ho hs
    | some o => simp only [Descent.allVisits, ho]
  rw [hv]
  refine ⟨fun ht ↦ ?_, fun j hj v hm hi ↦ ?_, fun terminal terminal' before' ↦ ?_⟩
  · rw [← hd] at ht
    obtain ⟨i, -, hi⟩ := place?_of_mem_partsOf ((descend_sublist _ s).subset ht)
    simp [Visit.place?] at hi
  · exact absurd (hp v hm j hi) (Nat.not_le_of_lt hj)
  · rw [composeChain_append_cons, composeChain_append_cons]
    exact hw _ _

theorem composeChain_logs {ε : Type} {log : σ → List ε} {mark : Visit → List ε}
    {terminal : Handler σ} {wrappers : List (WrapperEntry σ)} {enclosures : List (Enclosure σ)}
    (hw : ∀ (i : Nat) (w : WrapperEntry σ), wrappers[i]? = some w → w.Logs log mark i)
    (he : ∀ (i : Nat) (e : Enclosure σ), enclosures[i]? = some e →
      e.Logs log mark (wrappers.length + i))
    (ht : ∀ u, log (terminal u).2.world.app = log u.world.app ++ mark .terminal) (s : Scene σ) :
    log (composeChain terminal wrappers (enclosures.map Enclosure.wrap) s).2.world.app =
      log s.world.app ++ (approach wrappers enclosures s).allVisits.flatMap mark := by
  have hl := layersLog_layers hw he
  rw [composeChain_apply, approach]
  cases ha : (descend (layers wrappers enclosures).reverse s).stopped with
  | none =>
    rw [finish_logs_of_arrival hl (by rw [Descent.arrival, ha]), ht,
      arrival_logs hl (by rw [Descent.arrival, ha])]
    simp [Descent.allVisits, ha]
  | some o =>
    rw [finish_logs_of_not_arrival hl (by rw [Descent.arrival, ha])]
    simp [Descent.allVisits, ha]

/-- A composed chain does what its interpreter does. No part of it runs twice: what the parts log of
their runs is what the interpreter visits, in that order, and each visit is made once. Where the
function of a wrapper runs and does not use the inner chain, no part of that runs, and the end of the
request does not depend on it. -/
theorem composeChain_refines_interpreter (terminal : Handler σ) (wrappers : List (WrapperEntry σ))
    (enclosures : List (Enclosure σ)) (s : Scene σ) :
    composeChain terminal wrappers (enclosures.map Enclosure.wrap) s =
      (approach wrappers enclosures s).finish terminal ∧
    (approach wrappers enclosures s).allVisits.Nodup ∧
    (∀ (ε : Type) (log : σ → List ε) (mark : Visit → List ε),
      (∀ (i : Nat) (w : WrapperEntry σ), wrappers[i]? = some w → w.Logs log mark i) →
      (∀ (i : Nat) (e : Enclosure σ), enclosures[i]? = some e →
        e.Logs log mark (wrappers.length + i)) →
      (∀ u, log (terminal u).2.world.app = log u.world.app ++ mark .terminal) →
      log (composeChain terminal wrappers (enclosures.map Enclosure.wrap) s).2.world.app =
        log s.world.app ++ (approach wrappers enclosures s).allVisits.flatMap mark) ∧
    ∀ before w after, wrappers = before ++ w :: after →
      (approach wrappers enclosures s).ShortCircuits before.length →
      .terminal ∉ (approach wrappers enclosures s).allVisits ∧
      (∀ j < before.length, ∀ v ∈ (approach wrappers enclosures s).allVisits,
        v.place? ≠ some j) ∧
      ∀ terminal' before',
        composeChain terminal' (before' ++ w :: after) (enclosures.map Enclosure.wrap) s =
          composeChain terminal wrappers (enclosures.map Enclosure.wrap) s := by
  refine ⟨composeChain_apply terminal wrappers enclosures s, nodup_allVisits _ s,
    fun ε log mark hw he ht ↦ composeChain_logs hw he ht s, ?_⟩
  rintro before w after rfl h
  obtain ⟨ht, hp, hc⟩ := composeChain_of_shortCircuits h
  exact ⟨ht, hp, fun terminal' before' ↦ (hc terminal terminal' before').symm⟩

example (w : WrapperEntry σ) (s : Scene σ) :
    (approach [w, ⟨none, ⟨[], []⟩, fun _ ↦ pure .stop⟩] [] s).allVisits =
      [.injections 1, .function 1] := rfl

end WebDispatch
