import WebDispatch.Proofs.Requests

namespace WebDispatch

open Http

variable {σ : Type}

/-- The errors for which the client is to blame, with the status of each. -/
inductive Error.Blames : Error → Nat → Prop
  | malformedEntity (message : String) : Blames (.malformedEntity message) 400
  | payloadTooLarge (limit : Nat) : Blames (.payloadTooLarge limit) 413
  | notFound (method path : String) : Blames (.notFound method path) 404

/-- The framework's error that a failure is, under any texts that were put around it. -/
inductive Failure.Is : Failure → Error → Prop
  | framework (e : Error) : Is (.framework e) e
  | within {cause : Failure} {e : Error} (context : String) (h : cause.Is e) :
      Is (.within context cause) e

def Http.Problem.internal : Problem :=
  ⟨500, "Internal Server Error"⟩

/-- What a client is told when a chain does not end well. -/
inductive Told : Outcome Unit → Problem → Prop
  | blamed {f : Failure} {e : Error} {status : Nat} (hf : f.Is e) (he : e.Blames status) :
      Told (.error f) ⟨status, e.message⟩
  | hidden {f : Failure} (h : ∀ e status, f.Is e → ¬ e.Blames status) : Told (.error f) .internal
  | panicked (p : Panic) : Told (.panic p) .internal

theorem Failure.is_iff (f : Failure) (e : Error) : f.Is e ↔ f.cause? = some e := by
  induction f with
  | framework e' =>
    constructor
    · rintro ⟨⟩
      rfl
    · rintro ⟨⟩
      exact .framework e
  | other message =>
    constructor
    · rintro ⟨⟩
    · rintro ⟨⟩
  | within context cause ih =>
    constructor
    · intro h
      cases h with
      | within _ h => exact ih.1 h
    · exact fun h ↦ .within context (ih.2 h)

theorem Error.blames_iff (e : Error) (status : Nat) :
    e.Blames status ↔ e.status = status ∧ 400 ≤ status ∧ status < 500 := by
  constructor
  · intro h
    cases h <;> simp [Error.status]
  · rintro ⟨rfl, hle, hlt⟩
    cases e with
    | malformedEntity message => exact .malformedEntity message
    | payloadTooLarge limit => exact .payloadTooLarge limit
    | notFound method path => exact .notFound method path
    | _ => simp [Error.status] at hlt

theorem Failure.problem_of_blames {f : Failure} {e : Error} {status : Nat} (hf : f.Is e)
    (he : e.Blames status) : f.problem = ⟨status, e.message⟩ := by
  obtain ⟨rfl, hc⟩ := (e.blames_iff status).1 he
  simp only [problem, (f.is_iff e).1 hf, if_pos hc]

theorem Failure.problem_of_not_blames {f : Failure}
    (h : ∀ e status, f.Is e → ¬ e.Blames status) : f.problem = .internal := by
  cases hc : f.cause? with
  | none => simp only [problem, hc, Problem.internal]
  | some e =>
    have hn : ¬ (400 ≤ e.status ∧ e.status < 500) := fun hs ↦
      h e e.status ((f.is_iff e).2 hc) ((e.blames_iff e.status).2 ⟨rfl, hs⟩)
    simp only [problem, hc, if_neg hn, Problem.internal]

theorem told_error_iff (f : Failure) (p : Problem) : Told (.error f) p ↔ p = f.problem := by
  constructor
  · intro h
    cases h with
    | blamed hf he => exact (Failure.problem_of_blames hf he).symm
    | hidden h => exact (Failure.problem_of_not_blames h).symm
  · rintro rfl
    by_cases h : ∃ e status, f.Is e ∧ e.Blames status
    · obtain ⟨e, status, hf, he⟩ := h
      rw [Failure.problem_of_blames hf he]
      exact .blamed hf he
    · have hn : ∀ e status, f.Is e → ¬ e.Blames status :=
        fun e status hf he ↦ h ⟨e, status, hf, he⟩
      rw [Failure.problem_of_not_blames hn]
      exact .hidden hn

theorem told_panic_iff (panic : Panic) (p : Problem) : Told (.panic panic) p ↔ p = .internal := by
  constructor
  · rintro ⟨⟩
    rfl
  · rintro rfl
    exact .panicked panic

theorem Told.unique {o : Outcome Unit} {p p' : Problem} (h : Told o p) (h' : Told o p') :
    p = p' := by
  cases o with
  | ok a => cases h
  | error f => rw [(told_error_iff f p).1 h, (told_error_iff f p').1 h']
  | panic panic => rw [(told_panic_iff panic p).1 h, (told_panic_iff panic p').1 h']

theorem exists_told {o : Outcome Unit} (h : o ≠ .ok ()) : ∃ p, Told o p := by
  cases o with
  | ok a => exact absurd rfl h
  | error f => exact ⟨f.problem, (told_error_iff f _).2 rfl⟩
  | panic panic => exact ⟨.internal, .panicked panic⟩

namespace Dispatcher

theorem execute_of_ok {handler : Handler σ} {s u : Scene σ} (h : handler s = (.ok (), u)) :
    execute handler s = u.conclude := by
  rw [execute, Thread.run_eq_contained, Run.contained, h]

theorem execute_of_told {handler : Handler σ} {s u : Scene σ} {o : Outcome Unit} {p : Problem}
    (h : handler s = (o, u)) (hp : Told o p) : execute handler s = (p.response, u.world) := by
  rw [execute, Thread.run_eq_contained, Run.contained, h]
  cases o with
  | ok a => cases hp
  | error f =>
    rw [(told_error_iff f p).1 hp]
    rfl
  | panic panic =>
    rw [(told_panic_iff panic p).1 hp]
    rfl

/-- A failed request tells its client the class of the failure and nothing else. There is one problem
that a failure is told as, and the response is the document of that: whatever the exchange held when
the chain ended, on whichever thread it ran, and in any two requests that are told the same. A worker
hands back what the thread of the caller would have seen. -/
theorem failure_told_by_class {d : Dispatcher σ} {q : Request} {w : World σ} {i : Nat}
    {r : RouteEntry σ} {s u : Scene σ} {o : Outcome Unit} (he : d.Enters q w i r s)
    (h : r.handler s = (o, u)) (hf : o ≠ .ok ()) :
    (∃ p, Told o p ∧ ∀ p', Told o p' → p' = p) ∧
    ∀ p, Told o p →
      (∀ isUpgradable, d.dispatch isUpgradable q w =
        (.answered ⟨p.status, typedAs "application/json", .problem p⟩, u.world)) ∧
      (∀ (d' : Dispatcher σ) q' w' i' r' s' o' u', d'.Enters q' w' i' r' s' →
        r'.handler s' = (o', u') → Told o' p → ∀ isUpgradable isUpgradable',
        (d.dispatch isUpgradable q w).1 = (d'.dispatch isUpgradable' q' w').1) ∧
      Thread.worker.run r.handler s = Thread.caller.run r.handler s := by
  obtain ⟨p₀, hp₀⟩ := exists_told hf
  refine ⟨⟨p₀, hp₀, fun p' hp' ↦ hp'.unique hp₀⟩, fun p hp ↦ ⟨fun isUpgradable ↦ ?_, ?_, ?_⟩⟩
  · rw [dispatch_of_enters he, execute_of_told h hp]
    rfl
  · intro d' q' w' i' r' s' o' u' he' h' hp' isUpgradable isUpgradable'
    rw [dispatch_of_enters he, dispatch_of_enters he', execute_of_told h hp,
      execute_of_told h' hp']
  · rw [Thread.run_eq_contained, Thread.run_eq_contained]

/-! ### Two functions that fail with an answer half written -/

def panicking : RouteFunction Unit := fun _ ↦ do
  Run.modifyExchange fun x ↦ x.sendWithStatus 201 (Text.Utf8.encode "saved")
  Run.panic (.text "card 4711")

def refusing : RouteFunction Unit := fun _ ↦ do
  Run.tryExchange fun x ↦ x.setHeader "x-user" "ann"
  Run.fail (.within "saving" (.other "disk full"))

theorem failure_told_by_class_of_panic :
    ((Registry.single (.plain panicking)).dispatcher.dispatch true rootRequest (freshWorld ())).1 =
      .answered ⟨500, typedAs "application/json", .problem ⟨500, "Internal Server Error"⟩⟩ ∧
    ((Registry.single (.plain panicking)).dispatcher.dispatch true rootRequest (freshWorld ())).1 =
      ((Registry.single (.plain refusing)).dispatcher.dispatch true rootRequest
        (freshWorld ())).1 := by
  obtain ⟨-, htold⟩ := failure_told_by_class
    (Registry.single_enters (.plain panicking) (freshWorld ())) rfl (by simp)
  obtain ⟨hd, htwo, -⟩ := htold .internal (.panicked (.text "card 4711"))
  have hidden : ∀ e status, (Failure.within "saving" (.other "disk full")).Is e →
      ¬ e.Blames status := by
    intro e status he
    cases he with
    | within _ h => cases h
  refine ⟨congrArg Prod.fst (hd true), ?_⟩
  exact htwo _ rootRequest (freshWorld ()) 0 _ _ _ _
    (Registry.single_enters (.plain refusing) (freshWorld ())) rfl (.hidden hidden) true true

end Dispatcher

end WebDispatch
