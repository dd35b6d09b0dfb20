import WebDispatch.Proofs.Authorization
import WebDispatch.Proofs.Transactions

namespace WebDispatch

variable {σ : Type} {t : Terminal σ} {m : TransactionManager σ} {o : TransactionOptions}
  {s u : Scene σ} {log : σ → List TransactionEvent}

namespace Terminal

theorem invoke_of_injected {values : List (Injected σ)} {a : σ}
    (h : t.injections.resolve (some u.exchange) u.world.app = (.ok values, a)) :
    t.invoke u = t.function values (u.withApp a) := by
  have hi : Run.injected t.injections u = (.ok values, u.withApp a) := by
    rw [Run.injected_apply, h]
  rw [invoke, Run.bind_of_ok hi]

theorem invoke_of_not_injected {e : Error} {a : σ}
    (h : t.injections.resolve (some u.exchange) u.world.app = (.error e, a)) :
    t.invoke u = (.error e, u.withApp a) := by
  have hi : Run.injected t.injections u = (.error e, u.withApp a) := by
    rw [Run.injected_apply, h]
  rw [invoke, Run.bind_of_error hi]

/-- The events of a transaction around the injections and the function of a route, and its end. -/
inductive UnitOfWork (t : Terminal σ) (m : TransactionManager σ) (o : TransactionOptions)
    (s : Scene σ) : List TransactionEvent → Outcome Answer × Scene σ → Prop
  | notBegun {e a} (start : m.start o s.world.app = (.error e, a)) :
      UnitOfWork t m o s [.begun] (.error e, s.withApp a)
  | notInjected {tx a e b} (start : m.start o s.world.app = (.ok tx, a))
      (injections : t.injections.resolve (some s.exchange) a = (.error e, b)) :
      UnitOfWork t m o s [.begun, .rolledBack] (.error e, s.withApp (tx.rollback b).2)
  | failed {tx a values b f u} (start : m.start o s.world.app = (.ok tx, a))
      (injections : t.injections.resolve (some s.exchange) a = (.ok values, b))
      (function : t.function values (s.withApp b) = (.error f, u)) :
      UnitOfWork t m o s [.begun, .rolledBack] (.error f, u.withApp (tx.rollback u.world.app).2)
  | panicked {tx a values b p u} (start : m.start o s.world.app = (.ok tx, a))
      (injections : t.injections.resolve (some s.exchange) a = (.ok values, b))
      (function : t.function values (s.withApp b) = (.panic p, u)) :
      UnitOfWork t m o s [.begun, .rolledBack] (.panic p, u.withApp (tx.rollback u.world.app).2)
  | committed {tx a values b answer u c} (start : m.start o s.world.app = (.ok tx, a))
      (injections : t.injections.resolve (some s.exchange) a = (.ok values, b))
      (function : t.function values (s.withApp b) = (.ok answer, u))
      (commit : tx.commit u.world.app = (.ok (), c)) :
      UnitOfWork t m o s [.begun, .committed] (.ok answer, u.withApp c)
  | notCommitted {tx a values b answer u e c} (start : m.start o s.world.app = (.ok tx, a))
      (injections : t.injections.resolve (some s.exchange) a = (.ok values, b))
      (function : t.function values (s.withApp b) = (.ok answer, u))
      (commit : tx.commit u.world.app = (.error e, c)) :
      UnitOfWork t m o s [.begun, .committed] (.error e, u.withApp c)

theorem invokeInTransaction_of_begun {tx : Transaction σ} {a : σ}
    (ht : t.transactions = some (m, o)) (start : m.start o s.world.app = (.ok tx, a)) :
    t.invokeInTransaction s = tx.conclude (t.invoke (s.withApp a)) := by
  simp only [invokeInTransaction, ht]
  exact TransactionManager.within_of_begun start t.invoke

theorem invokeInTransaction_of_injected {tx : Transaction σ} {values : List (Injected σ)} {a b : σ}
    (ht : t.transactions = some (m, o)) (start : m.start o s.world.app = (.ok tx, a))
    (injections : t.injections.resolve (some s.exchange) a = (.ok values, b)) :
    t.invokeInTransaction s = tx.conclude (t.function values (s.withApp b)) := by
  rw [invokeInTransaction_of_begun ht start, invoke_of_injected (u := s.withApp a) injections,
    Scene.withApp_withApp]

theorem exists_unitOfWork (t : Terminal σ) (m : TransactionManager σ) (o : TransactionOptions)
    (s : Scene σ) : ∃ events r, UnitOfWork t m o s events r := by
  rcases start : m.start o s.world.app with ⟨_ | tx, a⟩
  case error => exact ⟨_, _, .notBegun start⟩
  case ok =>
    rcases injections : t.injections.resolve (some s.exchange) a with ⟨_ | values, b⟩
    case error => exact ⟨_, _, .notInjected start injections⟩
    case ok =>
      rcases function : t.function values (s.withApp b) with ⟨answer | f | p, u⟩
      case error => exact ⟨_, _, .failed start injections function⟩
      case panic => exact ⟨_, _, .panicked start injections function⟩
      case ok =>
        rcases commit : tx.commit u.world.app with ⟨_ | _, c⟩
        case error => exact ⟨_, _, .notCommitted start injections function commit⟩
        case ok => exact ⟨_, _, .committed start injections function commit⟩

theorem UnitOfWork.eq (ht : t.transactions = some (m, o)) {events : List TransactionEvent}
    {r : Outcome Answer × Scene σ} (h : UnitOfWork t m o s events r) :
    t.invokeInTransaction s = r := by
  cases h with
  | notBegun start =>
    simp only [invokeInTransaction, ht]
    exact TransactionManager.within_of_not_begun start t.invoke
  | @notInjected tx a e b start injections =>
    rw [invokeInTransaction_of_begun ht start,
      invoke_of_not_injected (u := s.withApp a) injections]
    rfl
  | failed start injections function =>
    rw [invokeInTransaction_of_injected ht start injections, function]
    rfl
  | panicked start injections function =>
    rw [invokeInTransaction_of_injected ht start injections, function]
    rfl
  | committed start injections function commit =>
    rw [invokeInTransaction_of_injected ht start injections, function, Transaction.conclude, commit]
    rfl
  | notCommitted start injections function commit =>
    rw [invokeInTransaction_of_injected ht start injections, function, Transaction.conclude, commit]
    rfl

/-- A transaction is begun, and finished at most once. -/
theorem UnitOfWork.events_eq {events : List TransactionEvent} {r : Outcome Answer × Scene σ}
    (h : UnitOfWork t m o s events r) :
    events = [.begun] ∨ events = [.begun, .committed] ∨ events = [.begun, .rolledBack] := by
  cases h <;> simp

structure Quiet (log : σ → List TransactionEvent) (t : Terminal σ) : Prop where
  authenticator : ∀ auth ∈ t.authenticator, Run.Keeps log auth
  injections : ∀ x a, log (t.injections.resolve x a).2 = log a
  function : ∀ values, (t.function values).Keeps log
  template : ∀ template ∈ t.template, ∀ data a, log (template.apply data a).2 = log a

theorem UnitOfWork.logs (hq : t.Quiet log) (hm : m.Records log) {events : List TransactionEvent}
    {r : Outcome Answer × Scene σ} (h : UnitOfWork t m o s events r) :
    log r.2.world.app = log s.world.app ++ events := by
  have hstart {result : Except Error (Transaction σ)} {a : σ}
      (start : m.start o s.world.app = (result, a)) : log a = log s.world.app ++ [.begun] := by
    rw [← hm.start o s.world.app, start]
  have hinj {result : Except Error (List (Injected σ))} {a b : σ}
      (injections : t.injections.resolve (some s.exchange) a = (result, b)) : log b = log a := by
    rw [← hq.injections (some s.exchange) a, injections]
  have hfun {values : List (Injected σ)} {b : σ} {result : Outcome Answer} {u : Scene σ}
      (function : t.function values (s.withApp b) = (result, u)) : log u.world.app = log b := by
    have := hq.function values (s.withApp b)
    rwa [function] at this
  have hback {tx : Transaction σ} {a c : σ} (start : m.start o s.world.app = (.ok tx, a))
      (h : log c = log a) : log (tx.rollback c).2 = log s.world.app ++ [.begun, .rolledBack] := by
    rw [hm.rollback o s.world.app tx (by rw [start]), h, hstart start, List.append_assoc]
    rfl
  have hcommit {tx : Transaction σ} {a c : σ} (start : m.start o s.world.app = (.ok tx, a))
      (h : log c = log a) : log (tx.commit c).2 = log s.world.app ++ [.begun, .committed] := by
    rw [hm.commit o s.world.app tx (by rw [start]), h, hstart start, List.append_assoc]
    rfl
  cases h with
  | notBegun start => exact hstart start
  | notInjected start injections => exact hback start (hinj injections)
  | failed start injections function =>
    exact hback start ((hfun function).trans (hinj injections))
  | panicked start injections function =>
    exact hback start ((hfun function).trans (hinj injections))
  | committed start injections function commit =>
    have h := hcommit start ((hfun function).trans (hinj injections))
    rwa [commit] at h
  | notCommitted start injections function commit =>
    have h := hcommit start ((hfun function).trans (hinj injections))
    rwa [commit] at h

/-! ### The whole terminal -/

/-- The events that a terminal adds: those of a transaction behind an open gate. -/
inductive Bracket (t : Terminal σ) (s : Scene σ) : List TransactionEvent → Prop
  | closed (h : ∀ u, t.authorize s ≠ (.ok true, u)) : Bracket t s []
  | plain (ht : t.transactions = none) : Bracket t s []
  | unit {m o u events r} (ht : t.transactions = some (m, o)) (h : t.authorize s = (.ok true, u))
      (hu : UnitOfWork t m o { u with exchange := putHeaders t.headers u.exchange } events r) :
      Bracket t s events

theorem exists_bracket (t : Terminal σ) (s : Scene σ) : ∃ events, t.Bracket s events := by
  cases ht : t.transactions with
  | none => exact ⟨[], .plain ht⟩
  | some manager =>
    by_cases h : ∃ u, t.authorize s = (.ok true, u)
    · obtain ⟨u, h⟩ := h
      obtain ⟨events, r, hu⟩ := exists_unitOfWork t manager.1 manager.2
        { u with exchange := putHeaders t.headers u.exchange }
      exact ⟨events, .unit ht h hu⟩
    · exact ⟨[], .closed fun u hu ↦ h ⟨u, hu⟩⟩

theorem Bracket.events_eq {events : List TransactionEvent} (h : t.Bracket s events) :
    events = [] ∨ events = [.begun] ∨ events = [.begun, .committed] ∨
      events = [.begun, .rolledBack] := by
  cases h with
  | closed h => exact .inl rfl
  | plain ht => exact .inl rfl
  | unit ht h hu => exact .inr hu.events_eq

theorem Quiet.authorize (hq : t.Quiet log) : t.authorize.Keeps log := by
  unfold Terminal.authorize
  split
  · exact Run.keeps_pure log _
  · cases ha : t.authenticator with
    | none => exact (Run.keeps_modifyExchange log _).bind fun _ ↦ Run.keeps_pure log _
    | some auth =>
      refine (hq.authenticator auth (by rw [ha]; rfl)).bind fun answer ↦ ?_
      cases answer with
      | refused => exact (Run.keeps_modifyExchange log _).bind fun _ ↦ Run.keeps_pure log _
      | authenticated principal =>
        exact (Run.keeps_exchange log).bind fun x ↦
          (Run.keeps_modifyExchange log _).bind fun _ ↦ Run.keeps_pure log _

theorem Quiet.invoke (hq : t.Quiet log) : t.invoke.Keeps log := by
  refine Run.Keeps.bind (fun s ↦ ?_) hq.function
  have h := hq.injections (some s.exchange) s.world.app
  rw [Run.injected_apply]
  rcases hr : t.injections.resolve (some s.exchange) s.world.app with ⟨_ | values, a⟩ <;>
    rw [hr] at h <;> exact h

theorem Quiet.respond (hq : t.Quiet log) (answer : Answer) : (t.respond answer).Keeps log := by
  have hsend (text : String) : (sendText text : Run (Scene σ) Unit).Keeps log :=
    Run.keeps_modifyExchange log _
  refine (Run.keeps_exchange log).bind fun x ↦ ?_
  split
  · exact Run.keeps_pure log _
  · unfold send
    cases ht : t.template with
    | some template =>
      refine Run.Keeps.bind (fun s ↦ ?_) fun o ↦ (Run.keeps_ofOutcome log o).bind hsend
      exact hq.template template (by rw [ht]; rfl) _ _
    | none =>
      cases answer with
      | empty => exact Run.keeps_pure log _
      | text s => exact hsend s
      | structured v =>
        exact Run.Keeps.bind (Run.keeps_ofOutcome log _) fun text ↦
          (Run.keeps_modifyExchange log _).bind fun _ ↦ hsend text

theorem handler_of_unitOfWork (ht : t.transactions = some (m, o))
    (h : t.authorize s = (.ok true, u)) {events : List TransactionEvent}
    {r : Outcome Answer × Scene σ}
    (hu : UnitOfWork t m o { u with exchange := putHeaders t.headers u.exchange } events r) :
    (∀ answer v, r = (.ok answer, v) → t.handler s = t.respond answer v) ∧
    (∀ f v, r = (.error f, v) → t.handler s = (.error f, v)) ∧
    ∀ p v, r = (.panic p, v) → t.handler s = (.panic p, v) := by
  rw [handler_of_authorized h]
  have hr := hu.eq ht
  refine ⟨?_, ?_, ?_⟩
  · rintro answer v rfl
    exact Run.bind_of_ok hr _
  · rintro f v rfl
    exact Run.bind_of_error hr _
  · rintro p v rfl
    exact Run.bind_of_panic hr _

theorem Bracket.logs (hq : t.Quiet log) (hm : ∀ m o, t.transactions = some (m, o) → m.Records log)
    {events : List TransactionEvent} (h : t.Bracket s events) :
    log (t.handler s).2.world.app = log s.world.app ++ events := by
  cases h with
  | closed h =>
    have hs := hq.authorize s
    rcases ha : t.authorize s with ⟨o, u⟩
    rw [ha] at hs
    rw [List.append_nil]
    cases o with
    | ok isIn =>
      cases isIn with
      | true => exact absurd ha (h u)
      | false => rw [handler_of_unauthorized ha, hs]
    | error f => rw [handler, Run.bind_of_error ha, hs]
    | panic p => rw [handler, Run.bind_of_panic ha, hs]
  | plain ht =>
    rw [List.append_nil]
    refine hq.authorize.bind (fun isIn ↦ ?_) s
    cases isIn with
    | true =>
      refine (Run.keeps_modifyExchange log _).bind fun _ ↦ Run.Keeps.bind ?_ hq.respond
      rw [invokeInTransaction, ht]
      exact hq.invoke
    | false => exact Run.keeps_pure log _
  | @unit m o u events r ht h hu =>
    have hs : log u.world.app = log s.world.app := by
      rw [← hq.authorize s, h]
    have hl := hu.logs hq (hm m o ht)
    obtain ⟨hok, herror, hpanic⟩ := handler_of_unitOfWork ht h hu
    obtain ⟨o, v⟩ := r
    -- The log does not change at the gate, nor when the answer is sent.
    rw [← hs]
    cases o with
    | ok answer => rw [hok answer v rfl, hq.respond answer v, hl]
    | error f => rw [herror f v rfl, hl]
    | panic p => rw [hpanic p v rfl, hl]

end Terminal

end WebDispatch
