import WebDispatch.Exchange
import WebDispatch.Injection.Provider

namespace WebDispatch

inductive EntityKind
  | string
  | json
  | form
  | raw
  deriving DecidableEq, Repr

namespace EntityKind

def ofSuffix (suffix : String) : EntityKind :=
  if suffix = "string" then .string
  else if suffix = "json" then .json
  else if suffix = "form" then .form
  else .raw

def read {σ : Type} (kind : EntityKind) (e : Entity) : Except Error (Injected σ) :=
  match kind with
  | .string => e.asString.map fun s ↦ some (.text s)
  | .json => e.asJson.map fun v ↦ match v with
    | .null => none
    | v => some (.json v)
  | .form => .ok (some (.form e.asForm))
  | .raw => .ok (some (.bytes e.data))

end EntityKind

inductive Resolver (σ : Type)
  | null
  | entity (kind : EntityKind)
  | provided (provider : Provider σ) (name : String)
  | unprovided

namespace Resolver

variable {σ : Type}

def isNull : Resolver σ → Bool
  | null => true
  | _ => false

def describe (r : Resolver σ) : String :=
  if r.isNull then "ParamResolver(null)" else "ParamResolver(..)"

def resolve (r : Resolver σ) (x : Option Exchange) : StateM σ (Except Error (Injected σ)) :=
  match r with
  | null => pure (.ok none)
  | unprovided => pure (.ok none)
  | provided provider name => do return .ok (← provider.get name)
  | entity kind =>
    match x with
    | some x => pure (kind.read x.entity)
    | none => pure (.ok none)

end Resolver

/-- The parameters of a handler, fixed when it is registered. -/
structure Injections (σ : Type) where
  resolvers : List (Resolver σ)
  processors : List (PostProcessor σ)

namespace Injections

variable {σ : Type}

def size (i : Injections σ) : Nat :=
  i.resolvers.length

/-- The values of resolvers in order, post-processed, up to the first that fails. -/
def resolveAll (processors : List (PostProcessor σ)) (x : Option Exchange) :
    List (Resolver σ) → StateM σ (Except Error (List (Injected σ)))
  | [] => pure (.ok [])
  | r :: rs => do
    match ← r.resolve x with
    | .error e => return .error e
    | .ok value =>
      let value ← PostProcessor.runAll processors value
      match ← resolveAll processors x rs with
      | .error e => return .error e
      | .ok values => return .ok (value :: values)

def resolve (i : Injections σ) (x : Option Exchange) :
    StateM σ (Except Error (List (Injected σ))) :=
  resolveAll i.processors x i.resolvers

end Injections

/-- Specifiers are resolved when a handler is registered, an alias when it is defined, so that later
definitions change nothing that was resolved before. -/
structure Injector (σ : Type) where
  providers : List (Provider σ)
  processors : List (PostProcessor σ)
  aliases : Table (Resolver σ) := {}

namespace Injector

variable {σ : Type}

def entityKey : String := "$entity"

def provider? (i : Injector σ) (key : String) : Option (Provider σ) :=
  i.providers.reverse.find? fun p ↦ p.key = key

def resolveSpec (i : Injector σ) (specifier : String) : Resolver σ :=
  match Text.cut ':' specifier with
  | none => (i.aliases.get? specifier).getD .null
  | some (key, name) =>
    if key = entityKey then .entity (.ofSuffix name)
    else
      match i.provider? key with
      | some p => .provided p name
      | none => .unprovided

def bind (i : Injector σ) (specifiers : List String) : Injections σ :=
  ⟨specifiers.map i.resolveSpec, i.processors⟩

/-- Names a resolver; its specifier is resolved now. -/
def withAlias (i : Injector σ) (name specifier : String) : Injector σ :=
  { i with aliases := i.aliases.insert name (i.resolveSpec specifier) }

def resolveManually (i : Injector σ) (specifier : String) :
    StateM σ (Except Error (Injected σ)) := do
  match ← (i.resolveSpec specifier).resolve none with
  | .error e => return .error e
  | .ok value => return .ok (← PostProcessor.runAll i.processors value)

end Injector

end WebDispatch
