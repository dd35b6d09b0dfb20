import WebDispatch.Proofs.Layers

namespace WebDispatch

variable {σ : Type}

/-- How far a request comes on the way inwards. -/
structure Descent (σ : Type) where
  visits : List Visit
  /-- What the layers that were passed have left to do, the innermost first. -/
  pending : List (Resume σ)
  stopped : Option (Outcome Unit)
  scene : Scene σ

def descend : List (Layer σ) → Scene σ → Descent σ
  | [], s => ⟨[], [], none, s⟩
  | l :: ls, s =>
    match l.enter ls.length s with
    | (visits, .stop o, s) => ⟨visits, [], some o, s⟩
    | (visits, .inward resume, s) =>
      let d := descend ls s
      { d with visits := visits ++ d.visits, pending := d.pending ++ resume.toList }

theorem descend_cons_stop {l : Layer σ} {ls : List (Layer σ)} {s t : Scene σ} {visits : List Visit}
    {o : Outcome Unit} (h : l.enter ls.length s = (visits, .stop o, t)) :
    descend (l :: ls) s = ⟨visits, [], some o, t⟩ := by
  rw [descend, h]

theorem descend_cons_inward {l : Layer σ} {ls : List (Layer σ)} {s t : Scene σ}
    {visits : List Visit} {resume : Option (Resume σ)}
    (h : l.enter ls.length s = (visits, .inward resume, t)) :
    descend (l :: ls) s =
      ⟨visits ++ (descend ls t).visits, (descend ls t).pending ++ resume.toList,
        (descend ls t).stopped, (descend ls t).scene⟩ := by
  rw [descend, h]

def ascend (pending : List (Resume σ)) (r : Outcome Unit × Scene σ) : Outcome Unit × Scene σ :=
  pending.foldl (fun r resume ↦ resume r.1 r.2) r

namespace Descent

/-- The scene in which the terminal is entered, if it is. -/
def arrival (d : Descent σ) : Option (Scene σ) :=
  match d.stopped with
  | none => some d.scene
  | some _ => none

def finish (d : Descent σ) (terminal : Handler σ) : Outcome Unit × Scene σ :=
  match d.stopped with
  | none => ascend d.pending (terminal d.scene)
  | some o => ascend d.pending (o, d.scene)

def allVisits (d : Descent σ) : List Visit :=
  match d.stopped with
  | none => d.visits ++ [.terminal]
  | some _ => d.visits

end Descent

/-- The layers of a chain in the order in which each is put around those before. -/
def layers (wrappers : List (WrapperEntry σ)) (enclosures : List (Enclosure σ)) : List (Layer σ) :=
  wrappers.map .wrapper ++ enclosures.map .enclosure

def approach (wrappers : List (WrapperEntry σ)) (enclosures : List (Enclosure σ)) (s : Scene σ) :
    Descent σ :=
  descend (layers wrappers enclosures).reverse s

theorem ascend_append (ks ks' : List (Resume σ)) (r : Outcome Unit × Scene σ) :
    ascend (ks ++ ks') r = ascend ks' (ascend ks r) :=
  List.foldl_append

/-! ### The composed handler follows the interpreter -/

theorem foldr_wrap_apply (terminal : Handler σ) (ls : List (Layer σ)) (s : Scene σ) :
    ls.foldr (fun l inner ↦ l.wrap inner) terminal s = (descend ls s).finish terminal := by
  induction ls generalizing s with
  | nil => rfl
  | cons l ls ih =>
    rw [List.foldr_cons, l.wrap_apply ls.length]
    rcases h : l.enter ls.length s with ⟨visits, passage, t⟩
    cases passage with
    | stop o => rw [descend_cons_stop h]; rfl
    | inward resume =>
      rw [descend_cons_inward h]
      cases resume with
      | none =>
        simp only [Passage.finish, Option.toList, List.append_nil]
        exact ih t
      | some resume =>
        simp only [Passage.finish, Descent.finish, Option.toList, ascend_append, ih t]
        cases (descend ls t).stopped <;> rfl

theorem composeChain_eq_foldl (terminal : Handler σ) (wrappers : List (WrapperEntry σ))
    (enclosures : List (Enclosure σ)) :
    composeChain terminal wrappers (enclosures.map Enclosure.wrap) =
      (layers wrappers enclosures).foldl (fun inner l ↦ l.wrap inner) terminal := by
  rw [layers, List.foldl_append, List.foldl_map, List.foldl_map, composeChain, List.foldl_map]
  rfl

theorem composeChain_apply (terminal : Handler σ) (wrappers : List (WrapperEntry σ))
    (enclosures : List (Enclosure σ)) (s : Scene σ) :
    composeChain terminal wrappers (enclosures.map Enclosure.wrap) s =
      (approach wrappers enclosures s).finish terminal := by
  rw [composeChain_eq_foldl, ← List.foldr_reverse, foldr_wrap_apply, approach]

theorem composeChain_congr {terminal terminal' : Handler σ} {wrappers : List (WrapperEntry σ)}
    {enclosures : List (Enclosure σ)} {s : Scene σ}
    (h : ∀ u, (approach wrappers enclosures s).arrival = some u → terminal u = terminal' u) :
    composeChain terminal wrappers (enclosures.map Enclosure.wrap) s =
      composeChain terminal' wrappers (enclosures.map Enclosure.wrap) s := by
  rw [composeChain_apply, composeChain_apply, Descent.finish, Descent.finish]
  cases ho : (approach wrappers enclosures s).stopped with
  | none => simp only [h _ (by rw [Descent.arrival, ho])]
  | some o => rfl

/-! ### Each part of a chain runs at most once -/

def partsAt (place : Nat) : List Visit :=
  [.enclosure place, .predicate place, .injections place, .function place, .next place]

def partsOf : Nat → List Visit
  | 0 => []
  | n + 1 => partsAt n ++ partsOf n

def Visit.place? : Visit → Option Nat
  | enclosure n | predicate n | injections n | function n | next n => some n
  | terminal => none

theorem place?_of_mem_partsAt {place : Nat} {v : Visit} (h : v ∈ partsAt place) :
    v.place? = some place := by
  simp only [partsAt, List.mem_cons, List.not_mem_nil, or_false] at h
  rcases h with rfl | rfl | rfl | rfl | rfl <;> rfl

theorem place?_of_mem_partsOf {n : Nat} {v : Visit} (h : v ∈ partsOf n) :
    ∃ i < n, v.place? = some i := by
  induction n with
  | zero => simp [partsOf] at h
  | succ n ih =>
    rcases List.mem_append.1 h with h | h
    · exact ⟨n, by omega, place?_of_mem_partsAt h⟩
    · obtain ⟨i, hi, hv⟩ := ih h
      exact ⟨i, by omega, hv⟩

theorem nodup_partsOf (n : Nat) : (partsOf n).Nodup := by
  induction n with
  | zero => exact List.nodup_nil
  | succ n ih =>
    refine List.nodup_append.2 ⟨by simp [partsAt], ih, fun v hv w hw he ↦ ?_⟩
    obtain ⟨i, hi, hp⟩ := place?_of_mem_partsOf hw
    rw [← he, place?_of_mem_partsAt hv] at hp
    have : n = i := Option.some.inj hp
    omega

theorem Layer.enter_sublist (l : Layer σ) (place : Nat) (s : Scene σ) :
    (l.enter place s).1.Sublist (partsAt place) := by
  have hcall (w : WrapperEntry σ) (t : Scene σ) : (w.call place t).1.Sublist
      [.injections place, .function place, .next place] := by
    unfold WrapperEntry.call
    split
    · simp
    · split <;> simp
  cases l with
  | wrapper w =>
    refine List.Sublist.cons _ ?_
    change (w.enter place s).1.Sublist _
    unfold WrapperEntry.enter
    split
    · exact (hcall w s).cons _
    · split
      · exact (hcall w _).cons_cons _
      · simp
  | enclosure e =>
    simp only [enter]
    split <;> simp [partsAt]

theorem descend_sublist (ls : List (Layer σ)) (s : Scene σ) :
    (descend ls s).visits.Sublist (partsOf ls.length) := by
  induction ls generalizing s with
  | nil => exact .slnil
  | cons l ls ih =>
    have hl := l.enter_sublist ls.length s
    rcases h : l.enter ls.length s with ⟨visits, passage, t⟩
    rw [h] at hl
    cases passage with
    | stop o =>
      rw [descend_cons_stop h]
      exact hl.trans (List.sublist_append_left ..)
    | inward resume =>
      rw [descend_cons_inward h]
      exact hl.append (ih t)

theorem nodup_allVisits (ls : List (Layer σ)) (s : Scene σ) : (descend ls s).allVisits.Nodup := by
  -- The parts of all layers are distinct by their places, and the visits are some of them.
  have hs := descend_sublist ls s
  have hn := hs.nodup (nodup_partsOf ls.length)
  unfold Descent.allVisits
  split
  · refine List.nodup_append.2 ⟨hn, by simp, fun v hv w hw he ↦ ?_⟩
    obtain ⟨i, -, hp⟩ := place?_of_mem_partsOf (hs.subset hv)
    rw [he, List.mem_singleton.1 hw] at hp
    simp [Visit.place?] at hp
  · exact hn

end WebDispatch
