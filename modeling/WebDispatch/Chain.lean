import WebDispatch.Injection.Injector
import WebDispatch.Predicate

namespace WebDispatch

variable {σ : Type}

inductive Next (σ : Type)
  | stop
  /-- The inner chain runs, and then the rest of the function, which is told how it ended. -/
  | inward (resume : Outcome Unit → Run (Scene σ) Unit)

namespace Next

/-- The inner chain runs, and then the rest of the function on its result. A function that goes on
like this is left by a panic of the inner chain. -/
def run (resume : Except Failure Unit → Run (Scene σ) Unit) : Next σ :=
  inward fun
    | .ok a => resume (.ok a)
    | .error f => resume (.error f)
    | .panic p => Run.panic p

def through : Next σ :=
  run Run.ofResult

end Next

abbrev WrapperFunction (σ : Type) := List (Injected σ) → Run (Scene σ) (Next σ)

structure WrapperEntry (σ : Type) where
  predicate : Option (Predicate σ)
  injections : Injections σ
  function : WrapperFunction σ

def Run.accepted : Option (Predicate σ) → Run (Scene σ) Bool
  | none => pure true
  | some p => do Run.ofApp (p (← Run.exchange))

def Run.injected (i : Injections σ) : Run (Scene σ) (List (Injected σ)) := do
  let x ← Run.exchange
  Run.ofExcept (← Run.ofApp (i.resolve (some x)))

namespace WrapperEntry

/-- The wrapper around a handler. A request that the predicate rejects goes straight on. -/
def wrap (w : WrapperEntry σ) (inner : Handler σ) : Run (Scene σ) Unit := do
  if ← Run.accepted w.predicate then
    match ← w.function (← Run.injected w.injections) with
    | .stop => pure ()
    | .inward resume => inner.onEnd resume
  else inner

end WrapperEntry

abbrev HandlerWrapper (σ : Type) := Handler σ → Handler σ

/-- The wrapper that was registered last runs first, and wrappers of whole handlers run outside all of
these. -/
def composeChain (terminal : Handler σ) (wrappers : List (WrapperEntry σ))
    (handlerWrappers : List (HandlerWrapper σ)) : Handler σ :=
  let chained := wrappers.foldl (fun h w ↦ w.wrap h) terminal
  handlerWrappers.foldl (fun h w ↦ w h) chained

end WebDispatch
