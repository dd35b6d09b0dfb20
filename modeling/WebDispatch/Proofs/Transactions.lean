import WebDispatch.Proofs.Effects
import WebDispatch.Transaction

namespace WebDispatch

variable {σ α : Type}

namespace TransactionScope

theorem start_of_not_begun {m : TransactionManager σ} {options : TransactionOptions} {s : Scene σ}
    {e : Error} {a : σ} (h : m.start options s.world.app = (.error e, a)) :
    TransactionScope.start m options s = (.error e, s.withApp a) := by
  rw [start, Run.ofApp_bind, h]
  rfl

theorem start_of_begun {m : TransactionManager σ} {options : TransactionOptions} {s : Scene σ}
    {t : Transaction σ} {a : σ} (h : m.start options s.world.app = (.ok t, a)) :
    TransactionScope.start m options s = (.ok ⟨some t⟩, s.withApp a) := by
  rw [start, Run.ofApp_bind, h]
  rfl

theorem close_apply (t : Transaction σ) (finish : Transaction σ → StateM σ (Except Error Unit))
    (s : Scene σ) : (⟨some t⟩ : TransactionScope σ).close finish s =
      (.ofExcept (finish t s.world.app).1, s.withApp (finish t s.world.app).2) := rfl

end TransactionScope

/-- The end of an open transaction, by the end of the code inside it. -/
def Transaction.conclude (t : Transaction σ) : Outcome α × Scene σ → Outcome α × Scene σ
  | (.ok a, s) => ((Outcome.ofExcept (t.commit s.world.app).1).map fun _ ↦ a,
      s.withApp (t.commit s.world.app).2)
  | (.error f, s) => (.error f, s.withApp (t.rollback s.world.app).2)
  | (.panic p, s) => (.panic p, s.withApp (t.rollback s.world.app).2)

namespace TransactionManager

variable {m : TransactionManager σ} {options : TransactionOptions} {s : Scene σ} {a : σ}

theorem within_of_not_begun {e : Error} (h : m.start options s.world.app = (.error e, a))
    (body : Run (Scene σ) α) : m.within options body s = (.error e, s.withApp a) := by
  rw [within, Run.bind_of_error (TransactionScope.start_of_not_begun h)]

theorem within_of_begun {t : Transaction σ} (h : m.start options s.world.app = (.ok t, a))
    (body : Run (Scene σ) α) : m.within options body s = t.conclude (body (s.withApp a)) := by
  rw [within, Run.bind_of_ok (TransactionScope.start_of_begun h), Run.onEnd]
  rcases body (s.withApp a) with ⟨o, u⟩
  cases o with
  | ok v =>
    simp only [TransactionScope.settle]
    rw [Run.bind_apply, TransactionScope.commit, TransactionScope.close_apply, Transaction.conclude]
    cases (t.commit u.world.app).1 <;> rfl
  | error f =>
    simp only [TransactionScope.settle]
    rw [Run.bind_apply, Run.attempt, TransactionScope.rollback, TransactionScope.close_apply]
    cases (t.rollback u.world.app).1 <;> rfl
  | panic p => rfl

end TransactionManager

/-! ### The events of a transaction -/

inductive TransactionEvent
  | begun
  | committed
  | rolledBack
  deriving DecidableEq, Repr

/-- A log to which the calls of a manager and of its transactions add their events, also when they
fail. -/
structure TransactionManager.Records (log : σ → List TransactionEvent) (m : TransactionManager σ) :
    Prop where
  start : ∀ o a, log (m.start o a).2 = log a ++ [.begun]
  commit : ∀ o a t, (m.start o a).1 = .ok t → ∀ b, log (t.commit b).2 = log b ++ [.committed]
  rollback : ∀ o a t, (m.start o a).1 = .ok t → ∀ b, log (t.rollback b).2 = log b ++ [.rolledBack]

end WebDispatch
