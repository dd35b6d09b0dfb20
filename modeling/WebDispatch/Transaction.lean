import WebDispatch.Run

namespace WebDispatch

inductive Isolation
  | readUncommitted
  | readCommitted
  | repeatableRead
  | serializable
  deriving DecidableEq, Repr

namespace Isolation

def all : List Isolation :=
  [readUncommitted, readCommitted, repeatableRead, serializable]

def name : Isolation → String
  | readUncommitted => "ReadUncommitted"
  | readCommitted => "ReadCommitted"
  | repeatableRead => "RepeatableRead"
  | serializable => "Serializable"

def parse? (s : String) : Option Isolation :=
  all.find? fun i ↦ i.name = s

end Isolation

structure TransactionOptions where
  isolation : Option Isolation := none
  readOnly : Bool := false
  deriving DecidableEq, Repr

structure Transaction (σ : Type) where
  commit : StateM σ (Except Error Unit)
  rollback : StateM σ (Except Error Unit)

structure TransactionManager (σ : Type) where
  start : TransactionOptions → StateM σ (Except Error (Transaction σ))

variable {σ s α : Type} [Holds σ s]

/-- An open transaction, rolled back where it is given up unless it was finished before. -/
structure TransactionScope (σ : Type) where
  transaction : Option (Transaction σ)

namespace TransactionScope

def start (m : TransactionManager σ) (options : TransactionOptions) :
    Run s (TransactionScope σ) := do
  let t ← Run.ofExcept (← Run.ofApp (m.start options))
  return ⟨some t⟩

def abandon (scope : TransactionScope σ) : Run s Unit :=
  match scope.transaction with
  | some t => do let _ ← Run.ofApp t.rollback
  | none => pure ()

/-- Takes the transaction out of the scope and finishes it; what is left of the scope is given up. -/
def close (scope : TransactionScope σ) (finish : Transaction σ → StateM σ (Except Error Unit)) :
    Run s Unit :=
  let rest : TransactionScope σ := { scope with transaction := none }
  let finished : Run s Unit :=
    match scope.transaction with
    | some t => do Run.ofExcept (← Run.ofApp (finish t))
    | none => Run.fail (.framework (.transaction "already finished"))
  finished.onEnd fun o ↦ do
    rest.abandon
    Run.ofOutcome o

def commit (scope : TransactionScope σ) : Run s Unit :=
  scope.close Transaction.commit

def rollback (scope : TransactionScope σ) : Run s Unit :=
  scope.close Transaction.rollback

/-- The end of a body inside a scope. An error of the body stays what it is, also when the rollback
fails. -/
def settle (scope : TransactionScope σ) : Outcome α → Run s α
  | .ok a => do
    scope.commit
    return a
  | .error f => do
    let _ ← scope.rollback.attempt
    Run.fail f
  | .panic p => do
    scope.abandon
    Run.panic p

end TransactionScope

def TransactionManager.within (m : TransactionManager σ) (options : TransactionOptions)
    (body : Run s α) : Run s α := do
  let scope ← TransactionScope.start m options
  body.onEnd scope.settle

end WebDispatch
