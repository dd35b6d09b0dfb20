import WebDispatch.Error

namespace WebDispatch

inductive Outcome (α : Type)
  | ok (a : α)
  | error (f : Failure)
  | panic (p : Panic)
  deriving DecidableEq, Repr

namespace Outcome

variable {α β : Type}

def map (f : α → β) : Outcome α → Outcome β
  | ok a => ok (f a)
  | error e => error e
  | panic p => panic p

def ofExcept : Except Error α → Outcome α
  | .ok a => ok a
  | .error e => error e

def bind (o : Outcome α) (f : α → Outcome β) : Outcome β :=
  match o with
  | ok a => f a
  | error e => error e
  | panic p => panic p

instance : Monad Outcome where
  pure := ok
  bind := bind

end Outcome

/-- User code. Whatever it did to the state stays done, however it ends. -/
def Run (s α : Type) : Type :=
  s → Outcome α × s

namespace Run

variable {s t α β : Type}

def pure (a : α) : Run s α :=
  fun x ↦ (.ok a, x)

def bind (m : Run s α) (f : α → Run s β) : Run s β :=
  fun x ↦
    match m x with
    | (.ok a, y) => f a y
    | (.error e, y) => (.error e, y)
    | (.panic p, y) => (.panic p, y)

instance : Monad (Run s) where
  pure := Run.pure
  bind := Run.bind

theorem bind_apply (m : Run s α) (f : α → Run s β) (x : s) :
    (m >>= f) x =
      match m x with
      | (.ok a, y) => f a y
      | (.error e, y) => (.error e, y)
      | (.panic p, y) => (.panic p, y) := rfl

theorem bind_pure (m : Run s α) : Run.bind m Run.pure = m := by
  funext x
  simp only [Run.bind, Run.pure]
  split <;> simp_all

theorem bind_bind {γ : Type} (m : Run s α) (f : α → Run s β) (g : β → Run s γ) :
    Run.bind (Run.bind m f) g = Run.bind m fun a ↦ Run.bind (f a) g := by
  funext x
  simp only [Run.bind]
  cases m x with
  | mk o y => cases o <;> rfl

instance : LawfulMonad (Run s) :=
  LawfulMonad.mk' (Run s) bind_pure (fun _ _ ↦ rfl) bind_bind

def fail (f : Failure) : Run s α :=
  fun x ↦ (.error f, x)

def panic (p : Panic) : Run s α :=
  fun x ↦ (.panic p, x)

instance : Inhabited (Run s α) := ⟨panic .silent⟩

def ofOutcome (o : Outcome α) : Run s α :=
  fun x ↦ (o, x)

/-- The end of other code, an error included. -/
def ofResult (r : Except Failure α) : Run s α :=
  ofOutcome (match r with | .ok a => .ok a | .error f => .error f)

def ofExcept (e : Except Error α) : Run s α :=
  ofOutcome (.ofExcept e)

def read : Run s s :=
  fun x ↦ (.ok x, x)

def gets (f : s → α) : Run s α :=
  fun x ↦ (.ok (f x), x)

def modify (f : s → s) : Run s Unit :=
  fun x ↦ (.ok (), f x)

def ofState (m : StateM s α) : Run s α :=
  fun x ↦ (.ok (m x).1, (m x).2)

/-- Code with its error, if any, as a value. A panic still passes. -/
def attempt (m : Run s α) : Run s (Except Failure α) :=
  fun x ↦
    match m x with
    | (.ok a, y) => (.ok (.ok a), y)
    | (.error f, y) => (.ok (.error f), y)
    | (.panic p, y) => (.panic p, y)

/-- Code with other code behind it, which is told how it ended. -/
def onEnd (m : Run s α) (k : Outcome α → Run s β) : Run s β :=
  fun x ↦ k (m x).1 (m x).2

def zoom (get : s → t) (set : t → s → s) (m : Run t α) : Run s α :=
  fun x ↦ ((m (get x)).1, set (m (get x)).2 x)

/-- The task of a worker: a panic becomes an error of the framework. -/
def contained (m : Run s α) (x : s) : Except Error (Except Failure α) × s :=
  match m x with
  | (.ok a, y) => (.ok (.ok a), y)
  | (.error f, y) => (.ok (.error f), y)
  | (.panic p, y) => (.error (.worker p.message), y)

end Run

/-- States `s` that hold a state `σ` of the application. -/
class Holds (σ : outParam Type) (s : Type) where
  app : s → σ
  setApp : σ → s → s

def Holds.lift {σ s α : Type} [Holds σ s] (m : StateM σ α) : StateM s α :=
  fun x ↦ ((m (Holds.app x)).1, Holds.setApp (m (Holds.app x)).2 x)

def Run.ofApp {σ s α : Type} [Holds σ s] (m : StateM σ α) : Run s α :=
  ofState (Holds.lift m)

end WebDispatch
