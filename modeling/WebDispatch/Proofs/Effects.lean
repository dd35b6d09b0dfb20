import WebDispatch.Chain

namespace WebDispatch

variable {σ α β : Type}

namespace Scene

def withApp (s : Scene σ) (a : σ) : Scene σ :=
  { s with world := { s.world with app := a } }

@[simp] theorem withApp_exchange (s : Scene σ) (a : σ) : (s.withApp a).exchange = s.exchange := rfl

@[simp] theorem withApp_app (s : Scene σ) (a : σ) : (s.withApp a).world.app = a := rfl

@[simp] theorem withApp_withApp (s : Scene σ) (a b : σ) : (s.withApp a).withApp b = s.withApp b :=
  rfl

@[simp] theorem withApp_self (s : Scene σ) : s.withApp s.world.app = s := rfl

end Scene

namespace Run

theorem exchange_bind (f : Exchange → Run (Scene σ) α) (s : Scene σ) :
    (Run.exchange >>= f) s = f s.exchange s := rfl

theorem ofApp_bind (m : StateM σ α) (f : α → Run (Scene σ) β) (s : Scene σ) :
    (Run.ofApp m >>= f) s = f (m s.world.app).1 (s.withApp (m s.world.app).2) := rfl

theorem modifyExchange_bind (f : Exchange → Exchange) (g : Unit → Run (Scene σ) α) (s : Scene σ) :
    (Run.modifyExchange f >>= g) s = g () { s with exchange := f s.exchange } := rfl

theorem accepted_none (s : Scene σ) : Run.accepted none s = (.ok true, s) := rfl

theorem accepted_some (p : Predicate σ) (s : Scene σ) :
    Run.accepted (some p) s =
      (.ok (p s.exchange s.world.app).1, s.withApp (p s.exchange s.world.app).2) := rfl

theorem injected_apply (i : Injections σ) (s : Scene σ) :
    Run.injected i s =
      match i.resolve (some s.exchange) s.world.app with
      | (.ok values, a) => (.ok values, s.withApp a)
      | (.error e, a) => (.error e, s.withApp a) := by
  rw [Run.injected, exchange_bind, ofApp_bind]
  cases i.resolve (some s.exchange) s.world.app with
  | mk result a => cases result <;> rfl

theorem bind_of_ok {m : Run (Scene σ) α} {s t : Scene σ} {a : α} (h : m s = (.ok a, t))
    (f : α → Run (Scene σ) β) : (m >>= f) s = f a t := by
  rw [bind_apply, h]

theorem bind_of_error {m : Run (Scene σ) α} {s t : Scene σ} {e : Failure} (h : m s = (.error e, t))
    (f : α → Run (Scene σ) β) : (m >>= f) s = (.error e, t) := by
  rw [bind_apply, h]

theorem bind_of_panic {m : Run (Scene σ) α} {s t : Scene σ} {p : Panic} (h : m s = (.panic p, t))
    (f : α → Run (Scene σ) β) : (m >>= f) s = (.panic p, t) := by
  rw [bind_apply, h]

/-- Code that leaves a log of the application as it is. -/
def Keeps {ε : Type} (log : σ → List ε) (m : Run (Scene σ) α) : Prop :=
  ∀ s, log (m s).2.world.app = log s.world.app

theorem Keeps.bind {ε : Type} {log : σ → List ε} {m : Run (Scene σ) α} {f : α → Run (Scene σ) β}
    (hm : m.Keeps log) (hf : ∀ a, (f a).Keeps log) : (m >>= f).Keeps log := by
  intro s
  rcases h : m s with ⟨o, t⟩
  have ht : log t.world.app = log s.world.app := by
    rw [← hm s, h]
  cases o with
  | ok a => rw [bind_of_ok h, hf a t, ht]
  | error e => rw [bind_of_error h, ht]
  | panic p => rw [bind_of_panic h, ht]

theorem keeps_pure {ε : Type} (log : σ → List ε) (a : α) : (pure a : Run (Scene σ) α).Keeps log :=
  fun _ ↦ rfl

theorem keeps_exchange {ε : Type} (log : σ → List ε) : (Run.exchange : Run (Scene σ) _).Keeps log :=
  fun _ ↦ rfl

theorem keeps_modifyExchange {ε : Type} (log : σ → List ε) (f : Exchange → Exchange) :
    (Run.modifyExchange f : Run (Scene σ) Unit).Keeps log :=
  fun _ ↦ rfl

theorem keeps_ofOutcome {ε : Type} (log : σ → List ε) (o : Outcome α) :
    (Run.ofOutcome o : Run (Scene σ) α).Keeps log :=
  fun _ ↦ rfl

end Run

end WebDispatch
