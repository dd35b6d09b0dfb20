import WebDispatch.Proofs.Interpreter

namespace WebDispatch

variable {σ ε : Type} (log : σ → List ε) (mark : Visit → List ε)

/-- What the function of a wrapper adds: its own mark, and that of the way inwards if it is taken. -/
def WrapperEntry.functionMark (place : Nat) : Outcome (Next σ) → List ε
  | .ok (.inward _) => mark (.function place) ++ mark (.next place)
  | _ => mark (.function place)

/-- The parts of a wrapper add their own marks to a log, and the rest of its function nothing. -/
structure WrapperEntry.Logs (place : Nat) (w : WrapperEntry σ) : Prop where
  predicate : ∀ p ∈ w.predicate, ∀ x a, log (p x a).2 = log a ++ mark (.predicate place)
  injections : ∀ x a, log (w.injections.resolve x a).2 = log a ++ mark (.injections place)
  function : ∀ values s, log (w.function values s).2.world.app =
    log s.world.app ++ functionMark mark place (w.function values s).1
  resume : ∀ values s resume t, w.function values s = (.ok (.inward resume), t) →
    ∀ o, (resume o).Keeps log

structure Enclosure.Logs (place : Nat) (e : Enclosure σ) : Prop where
  enter : ∀ s, log (e.enter s).2.world.app = log s.world.app ++ mark (.enclosure place)
  resume : ∀ s resume t, e.enter s = (.ok (some resume), t) → ∀ o, (resume o).Keeps log

def Layer.Logs (place : Nat) : Layer σ → Prop
  | wrapper w => w.Logs log mark place
  | enclosure e => e.Logs log mark place

def LayersLog : List (Layer σ) → Prop
  | [] => True
  | l :: ls => l.Logs log mark ls.length ∧ LayersLog ls

variable {log mark}

theorem layersLog_iff (ls : List (Layer σ)) :
    LayersLog log mark ls ↔
      ∀ (i : Nat) (l : Layer σ), ls.reverse[i]? = some l → l.Logs log mark i := by
  induction ls with
  | nil => simp [LayersLog]
  | cons l ls ih =>
    rw [LayersLog, ih, List.reverse_cons]
    constructor
    · rintro ⟨hl, hls⟩ i l' hi
      rw [List.getElem?_append] at hi
      split at hi
      · exact hls i l' hi
      · rename_i h
        obtain ⟨h₀, rfl⟩ : i - ls.reverse.length = 0 ∧ l = l' := by
          simpa [List.getElem?_singleton] using hi
        obtain rfl : i = ls.length := by simp only [List.length_reverse] at h h₀; omega
        exact hl
    · refine fun h ↦ ⟨h _ _ (by simp), fun i l' hi ↦ h i l' ?_⟩
      obtain ⟨hlt, -⟩ := List.getElem?_eq_some_iff.1 hi
      rw [List.getElem?_append_left hlt, hi]

theorem layersLog_layers {wrappers : List (WrapperEntry σ)} {enclosures : List (Enclosure σ)}
    (hw : ∀ (i : Nat) (w : WrapperEntry σ), wrappers[i]? = some w → w.Logs log mark i)
    (he : ∀ (i : Nat) (e : Enclosure σ), enclosures[i]? = some e →
      e.Logs log mark (wrappers.length + i)) :
    LayersLog log mark (layers wrappers enclosures).reverse := by
  rw [layersLog_iff]
  intro i l hi
  rw [List.reverse_reverse, layers, List.getElem?_append, List.length_map] at hi
  split at hi
  · obtain ⟨w, h, rfl⟩ : ∃ w, wrappers[i]? = some w ∧ .wrapper w = l := by simpa using hi
    exact hw i w h
  · rename_i hle
    obtain ⟨e, h, rfl⟩ : ∃ e, enclosures[i - wrappers.length]? = some e ∧ .enclosure e = l := by
      simpa using hi
    have := he _ _ h
    rwa [Nat.add_sub_cancel' (Nat.le_of_not_lt hle)] at this

/-! ### The way inwards -/

theorem WrapperEntry.call_logs {w : WrapperEntry σ} {place : Nat} (h : w.Logs log mark place)
    (s : Scene σ) : log (w.call place s).2.2.world.app =
      log s.world.app ++ (w.call place s).1.flatMap mark := by
  have he := h.injections (some s.exchange) s.world.app
  unfold call
  split
  · rename_i e a hi
    rw [hi] at he
    simpa using he
  · rename_i values a hi
    rw [hi] at he
    have hf := h.function values (s.withApp a)
    rw [Scene.withApp_app, he, List.append_assoc] at hf
    split <;> rename_i hr <;> rw [hr] at hf <;> simpa [functionMark] using hf

theorem WrapperEntry.enter_logs {w : WrapperEntry σ} {place : Nat} (h : w.Logs log mark place)
    (s : Scene σ) : log (w.enter place s).2.2.world.app =
      log s.world.app ++ (w.enter place s).1.flatMap mark := by
  cases hp : w.predicate with
  | none =>
    simp only [enter, hp]
    exact w.call_logs h s
  | some p =>
    have he := h.predicate p (by rw [hp]; rfl) s.exchange s.world.app
    simp only [enter, hp]
    split <;> rename_i a hy <;> rw [hy] at he
    · have hc := w.call_logs h (s.withApp a)
      rw [Scene.withApp_app, he, List.append_assoc] at hc
      exact hc
    · simpa using he

theorem Layer.enter_logs {l : Layer σ} {place : Nat} (h : l.Logs log mark place) (s : Scene σ) :
    log (l.enter place s).2.2.world.app =
      log s.world.app ++ (l.enter place s).1.flatMap mark := by
  cases l with
  | wrapper w => exact WrapperEntry.enter_logs h s
  | enclosure e =>
    have he := Enclosure.Logs.enter h s
    simp only [enter]
    split <;> rename_i hr <;> rw [hr] at he <;> simpa using he

theorem Layer.resume_keeps {l : Layer σ} {place : Nat} (h : l.Logs log mark place) {s t : Scene σ}
    {visits : List Visit} {resume : Resume σ}
    (he : l.enter place s = (visits, .inward (some resume), t)) (o : Outcome Unit) :
    (resume o).Keeps log := by
  have hcall {w : WrapperEntry σ} (h : w.Logs log mark place) {s : Scene σ}
      (he : (w.call place s).2.1 = .inward (some resume)) : (resume o).Keeps log := by
    unfold WrapperEntry.call at he
    split at he
    · simp at he
    · split at he
      · simp at he
      · rename_i resume' t hf
        obtain rfl : resume' = resume := by simpa using he
        exact h.resume _ _ _ _ hf o
      · simp at he
      · simp at he
  cases l with
  | wrapper w =>
    simp only [enter, WrapperEntry.enter] at he
    split at he
    · exact hcall h (by rw [he])
    · split at he
      · exact hcall h (congrArg (·.2.1) he)
      · simp at he
  | enclosure e =>
    simp only [enter] at he
    split at he
    · rename_i resume' t' hr
      obtain rfl : resume' = resume := by simpa using congrArg (·.2.1) he
      exact Enclosure.Logs.resume h _ _ _ hr o
    · simp at he
    · simp at he
    · simp at he

theorem descend_logs {ls : List (Layer σ)} (h : LayersLog log mark ls) (s : Scene σ) :
    log (descend ls s).scene.world.app =
        log s.world.app ++ (descend ls s).visits.flatMap mark ∧
      ∀ k ∈ (descend ls s).pending, ∀ o, (k o).Keeps log := by
  induction ls generalizing s with
  | nil => exact ⟨by simp [descend], fun k hk ↦ by simp [descend] at hk⟩
  | cons l ls ih =>
    obtain ⟨hl, hls⟩ := h
    have he := Layer.enter_logs hl s
    rcases hr : l.enter ls.length s with ⟨visits, passage, t⟩
    rw [hr] at he
    cases passage with
    | stop o =>
      rw [descend_cons_stop hr]
      exact ⟨he, fun k hk ↦ by simp at hk⟩
    | inward resume =>
      obtain ⟨he', hp⟩ := ih hls t
      rw [descend_cons_inward hr]
      refine ⟨?_, fun r hr' o ↦ ?_⟩
      · rw [he', he, List.flatMap_append, List.append_assoc]
      · rcases List.mem_append.1 hr' with hr' | hr'
        · exact hp r hr' o
        · obtain rfl : resume = some r := by simpa using hr'
          exact Layer.resume_keeps hl hr o

/-! ### The way back, and the whole chain -/

theorem ascend_keeps {ks : List (Resume σ)} (h : ∀ k ∈ ks, ∀ o, (k o).Keeps log)
    (r : Outcome Unit × Scene σ) : log (ascend ks r).2.world.app = log r.2.world.app := by
  induction ks generalizing r with
  | nil => rfl
  | cons k ks ih =>
    have hi := ih (fun k' hk' ↦ h k' (List.mem_cons_of_mem _ hk')) (k r.1 r.2)
    rw [ascend, List.foldl_cons]
    exact hi.trans (h k List.mem_cons_self r.1 r.2)

theorem arrival_logs {ls : List (Layer σ)} (h : LayersLog log mark ls) {s u : Scene σ}
    (hu : (descend ls s).arrival = some u) :
    log u.world.app = log s.world.app ++ (descend ls s).visits.flatMap mark := by
  unfold Descent.arrival at hu
  split at hu
  · obtain rfl : (descend ls s).scene = u := Option.some.inj hu
    exact (descend_logs h s).1
  · cases hu

theorem finish_logs_of_arrival {ls : List (Layer σ)} (h : LayersLog log mark ls) {s u : Scene σ}
    (hu : (descend ls s).arrival = some u) (terminal : Handler σ) :
    log ((descend ls s).finish terminal).2.world.app = log (terminal u).2.world.app := by
  have hp := (descend_logs h s).2
  unfold Descent.arrival at hu
  split at hu
  · rename_i ho
    obtain rfl : (descend ls s).scene = u := Option.some.inj hu
    simp only [Descent.finish, ho]
    exact ascend_keeps hp _
  · cases hu

theorem finish_logs_of_not_arrival {ls : List (Layer σ)} (h : LayersLog log mark ls) {s : Scene σ}
    (hs : (descend ls s).arrival = none) (terminal : Handler σ) :
    log ((descend ls s).finish terminal).2.world.app =
      log s.world.app ++ (descend ls s).visits.flatMap mark := by
  obtain ⟨he, hp⟩ := descend_logs h s
  unfold Descent.arrival at hs
  split at hs
  · cases hs
  · rename_i o ho
    simp only [Descent.finish, ho]
    rw [ascend_keeps hp, he]

end WebDispatch
