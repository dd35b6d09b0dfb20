import WebDispatch.Dispatcher

namespace WebDispatch

open Http

variable {σ : Type}

def Defaults.insert (d : Defaults σ) (key : OptionKey) (value : OptionValue σ) : Defaults σ :=
  ⟨fun k ↦ if k = key then some value else d.get? k⟩

/-- One call on a registry. The calls for one method, with options or without, are routes. -/
inductive Registration (σ : Type)
  | route (method : Method) (path : String) (options : Options σ)
      (spec : HandlerSpec (RouteFunction σ))
  | wrapper (predicate : Option (PredicateSource σ)) (spec : HandlerSpec (WrapperFunction σ))
  | withAlias (name specifier : String)
  | setDefault (name : String) (value : OptionValue σ)
  | channel (path : String) (spec : HandlerSpec (ChannelFunction σ))

structure Setup (σ : Type) where
  registry : Registry σ
  app : σ

namespace Setup

instance : Holds σ (Setup σ) where
  app := Setup.app
  setApp a s := { s with app := a }

def edit (f : Registry σ → Registry σ) : Run (Setup σ) Unit :=
  Run.modify fun s ↦ { s with registry := f s.registry }

end Setup

namespace Registration

def perform : Registration σ → Run (Setup σ) Unit
  | route method path options spec => do
    let r ← Run.gets Setup.registry
    let (pattern, config, predicate) ← Run.ofExcept (r.prepare path options)
    let template ← Run.ofExcept (← Run.ofApp (r.findTemplate config path))
    let terminal ← Run.ofExcept (r.terminalOf path config template spec)
    Setup.edit fun r ↦ { r with routes := r.routes ++ [⟨method, pattern, predicate, terminal⟩] }
  | wrapper source spec => do
    let r ← Run.gets Setup.registry
    let predicate ← Run.ofExcept (r.compilePredicate source)
    let injections := r.injector.bind spec.specifiers
    Setup.edit fun r ↦ { r with wrappers := r.wrappers ++ [⟨predicate, injections, spec.function⟩] }
  | withAlias name specifier =>
    Setup.edit fun r ↦ { r with injector := r.injector.withAlias name specifier }
  | setDefault name value => do
    let key ← Run.ofExcept (OptionKey.parse name)
    Run.ofExcept (key.check value)
    Setup.edit fun r ↦ { r with defaults := r.defaults.insert key value }
  | channel path spec => do
    let r ← Run.gets Setup.registry
    let pattern ← Run.ofExcept (PathPattern.ofText path)
    let injections := r.injector.bind spec.specifiers
    Setup.edit fun r ↦ { r with channels := r.channels ++ [⟨pattern, spec.function, injections⟩] }

end Registration

namespace Setup

def after (s : Setup σ) (c : Registration σ) : Setup σ :=
  (c.perform s).2

def afterAll (s : Setup σ) (calls : List (Registration σ)) : Setup σ :=
  calls.foldl after s

def outcomes : Setup σ → List (Registration σ) → List (Outcome Unit)
  | _, [] => []
  | s, c :: calls => (c.perform s).1 :: outcomes (s.after c) calls

def accepts (s : Setup σ) (c : Registration σ) : Bool :=
  (c.perform s).1 = .ok ()

end Setup

end WebDispatch
