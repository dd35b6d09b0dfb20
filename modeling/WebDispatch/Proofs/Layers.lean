import WebDispatch.Proofs.Effects

namespace WebDispatch

variable {σ : Type}

abbrev Resume (σ : Type) := Outcome Unit → Run (Scene σ) Unit

/-- How the way inwards goes on behind a layer. -/
inductive Passage (σ : Type)
  | stop (o : Outcome Unit)
  | inward (resume : Option (Resume σ))

/-- A wrapper of whole handlers that runs its inner handler at most once, as what it does up to that
point. -/
structure Enclosure (σ : Type) where
  enter : Run (Scene σ) (Option (Resume σ))

namespace Enclosure

def wrap (e : Enclosure σ) : HandlerWrapper σ := fun inner s ↦
  match e.enter s with
  | (.ok (some resume), s) => resume (inner s).1 (inner s).2
  | (.ok none, s) => (.ok (), s)
  | (.error f, s) => (.error f, s)
  | (.panic p, s) => (.panic p, s)

end Enclosure

inductive Layer (σ : Type)
  | wrapper (w : WrapperEntry σ)
  | enclosure (e : Enclosure σ)

/-- A part of a chain that runs, with the place of its layer: the number of layers further in. -/
inductive Visit
  | enclosure (place : Nat)
  | predicate (place : Nat)
  | injections (place : Nat)
  | function (place : Nat)
  | next (place : Nat)
  | terminal
  deriving DecidableEq, Repr

namespace WrapperEntry

def call (w : WrapperEntry σ) (place : Nat) (s : Scene σ) : List Visit × Passage σ × Scene σ :=
  match w.injections.resolve (some s.exchange) s.world.app with
  | (.error e, a) => ([.injections place], .stop (.error e), s.withApp a)
  | (.ok values, a) =>
    match w.function values (s.withApp a) with
    | (.ok .stop, s) => ([.injections place, .function place], .stop (.ok ()), s)
    | (.ok (.inward resume), s) =>
      ([.injections place, .function place, .next place], .inward (some resume), s)
    | (.error f, s) => ([.injections place, .function place], .stop (.error f), s)
    | (.panic p, s) => ([.injections place, .function place], .stop (.panic p), s)

def enter (w : WrapperEntry σ) (place : Nat) (s : Scene σ) : List Visit × Passage σ × Scene σ :=
  match w.predicate with
  | none => w.call place s
  | some p =>
    match p s.exchange s.world.app with
    | (true, a) =>
      (.predicate place :: (w.call place (s.withApp a)).1, (w.call place (s.withApp a)).2)
    | (false, a) => ([.predicate place], .inward none, s.withApp a)

end WrapperEntry

namespace Layer

def wrap (inner : Handler σ) : Layer σ → Handler σ
  | wrapper w => w.wrap inner
  | enclosure e => e.wrap inner

def enter (place : Nat) (s : Scene σ) : Layer σ → List Visit × Passage σ × Scene σ
  | wrapper w => w.enter place s
  | enclosure e =>
    match e.enter s with
    | (.ok (some resume), s) => ([.enclosure place], .inward (some resume), s)
    | (.ok none, s) => ([.enclosure place], .stop (.ok ()), s)
    | (.error f, s) => ([.enclosure place], .stop (.error f), s)
    | (.panic p, s) => ([.enclosure place], .stop (.panic p), s)

end Layer

def Passage.finish (inner : Handler σ) : Passage σ × Scene σ → Outcome Unit × Scene σ
  | (.stop o, s) => (o, s)
  | (.inward none, s) => inner s
  | (.inward (some resume), s) => resume (inner s).1 (inner s).2

theorem WrapperEntry.finish_call (w : WrapperEntry σ) (place : Nat) (inner : Handler σ)
    (s : Scene σ) :
    Passage.finish inner (w.call place s).2 =
      (do match ← w.function (← Run.injected w.injections) with
        | .stop => pure ()
        | .inward resume => inner.onEnd resume : Run (Scene σ) Unit) s := by
  have hi := Run.injected_apply w.injections s
  unfold call
  split
  · rename_i e a he
    rw [he] at hi
    rw [Run.bind_of_error hi]
    rfl
  · rename_i values a he
    rw [he] at hi
    rw [Run.bind_of_ok hi]
    split
    · rename_i t hf
      rw [Run.bind_of_ok hf]
      rfl
    · rename_i resume t hf
      rw [Run.bind_of_ok hf]
      rfl
    · rename_i f t hf
      rw [Run.bind_of_error hf]
      rfl
    · rename_i p t hf
      rw [Run.bind_of_panic hf]
      rfl

theorem WrapperEntry.wrap_apply (w : WrapperEntry σ) (place : Nat) (inner : Handler σ)
    (s : Scene σ) : w.wrap inner s = Passage.finish inner (w.enter place s).2 := by
  unfold wrap enter
  cases hp : w.predicate with
  | none =>
    rw [Run.bind_of_ok (Run.accepted_none s), if_pos rfl]
    exact (w.finish_call place inner s).symm
  | some p =>
    rw [Run.bind_of_ok (Run.accepted_some p s)]
    cases hy : p s.exchange s.world.app with
    | mk yes a =>
      simp only [hy]
      cases yes with
      | false =>
        rw [if_neg Bool.false_ne_true]
        rfl
      | true =>
        rw [if_pos rfl]
        exact (w.finish_call place inner (s.withApp a)).symm

theorem Layer.wrap_apply (l : Layer σ) (place : Nat) (inner : Handler σ) (s : Scene σ) :
    l.wrap inner s = Passage.finish inner (l.enter place s).2 := by
  cases l with
  | wrapper w => exact w.wrap_apply place inner s
  | enclosure e =>
    have h : e.wrap inner s = match e.enter s with
      | (.ok (some resume), s) => resume (inner s).1 (inner s).2
      | (.ok none, s) => (.ok (), s)
      | (.error f, s) => (.error f, s)
      | (.panic p, s) => (.panic p, s) := rfl
    rw [wrap, h, enter]
    split <;> rfl

end WebDispatch
