import WebDispatch.Channel.Route
import WebDispatch.Options.Config
import WebDispatch.Settings
import WebDispatch.Template.Mustache.Engine
import WebDispatch.Terminal

namespace WebDispatch

open Http

variable {σ : Type}

structure Collaborators (σ : Type) where
  settings : Settings
  templates : Directory
  providers : List (Provider σ) := []
  processors : List (PostProcessor σ) := []
  engines : List (Engine σ) := []
  handlerWrappers : List (HandlerWrapper σ) := []
  authenticator : Option (Authenticator σ) := none
  transactionManager : Option (TransactionManager σ) := none
  transactionOptions : TransactionOptions := {}
  predicateParser : Option (PredicateParser σ) := none
  serializer : Serializer := .json

structure HandlerSpec (F : Type) where
  specifiers : List String := []
  function : F

structure PendingRoute (σ : Type) where
  method : Method
  pattern : PathPattern
  predicate : Option (Predicate σ)
  terminal : Terminal σ

structure Registry (σ : Type) where
  settings : Settings
  injector : Injector σ
  defaults : Defaults σ := .initial
  routes : List (PendingRoute σ) := []
  wrappers : List (WrapperEntry σ) := []
  channels : List (ChannelRoute σ) := []
  engines : List (Engine σ)
  handlerWrappers : List (HandlerWrapper σ)
  authenticator : Option (Authenticator σ)
  transactionManager : Option (TransactionManager σ)
  transactionOptions : TransactionOptions
  predicateParser : Option (PredicateParser σ)
  serializer : Serializer

namespace Collaborators

def allEngines (c : Collaborators σ) : List (Engine σ) :=
  if c.engines.any fun e ↦ e.name == MustacheEngine.name then c.engines
  else c.engines ++ [(MustacheEngine.ofDirectory c.templates).toEngine]

def initAll : List (Engine σ) → StateM σ (Except Error Unit)
  | [] => pure (.ok ())
  | e :: es => do
    match ← e.init with
    | .error error => return .error error
    | .ok () => initAll es

def registry (c : Collaborators σ) : Registry σ where
  settings := c.settings
  injector :=
    { providers := c.providers
      processors := PostProcessor.queryTemplate :: c.processors }
  engines := c.allEngines
  handlerWrappers := c.handlerWrappers
  authenticator := c.authenticator
  transactionManager := c.transactionManager
  transactionOptions := c.transactionOptions
  predicateParser := c.predicateParser
  serializer := c.serializer

def build (c : Collaborators σ) : StateM σ (Except Error (Registry σ)) := do
  match ← initAll c.allEngines with
  | .error error => return .error error
  | .ok () => return .ok c.registry

end Collaborators

namespace Registry

def compilePredicate (r : Registry σ) (source : Option (PredicateSource σ)) :
    Except Error (Option (Predicate σ)) :=
  match source with
  | none => .ok none
  | some p => (p.compile r.predicateParser).map some

def findTemplate (r : Registry σ) (config : HandlerConfig σ) (path : String) :
    StateM σ (Except Error (Option (Template σ))) :=
  match config.template with
  | none => pure (.ok none)
  | some name =>
    match r.engines.find? fun e ↦ e.name == config.templateType with
    | none =>
      pure (.error (.missingCollaborator ("template engine '" ++ config.templateType ++ "'") path))
    | some engine => do return (← engine.getTemplate name).map some

def headerPairs : List (String × String) → Except Error (List (HeaderName × HeaderValue))
  | [] => .ok []
  | h :: hs => do
    let pair ← headerPair h.1 h.2
    return pair :: (← headerPairs hs)

def markupType : HeaderValue :=
  ⟨Text.Utf8.encode "text/html; charset=UTF-8"⟩

def isContentType (h : HeaderName × HeaderValue) : Bool :=
  h.1 == .contentType

/-- The headers of a route, and the content type that structured answers may replace. A template
makes markup, unless the route itself names a content type. -/
def typedHeaders (explicit hasTemplate : Bool) (headers : List (HeaderName × HeaderValue)) :
    List (HeaderName × HeaderValue) × Option HeaderValue :=
  if explicit then (headers, none)
  else if hasTemplate then
    (headers.filter (!isContentType ·) ++ [(.contentType, markupType)], none)
  else (headers, (headers.find? isContentType).map Prod.snd)

def transactionsOf (r : Registry σ) (transactional : Bool) (path : String) :
    Except Error (Option (TransactionManager σ × TransactionOptions)) :=
  if !transactional then .ok none
  else
    match r.transactionManager with
    | some manager => .ok (some (manager, r.transactionOptions))
    | none => .error (.missingCollaborator "transaction manager" path)

def terminalOf (r : Registry σ) (path : String) (config : HandlerConfig σ)
    (template : Option (Template σ)) (spec : HandlerSpec (RouteFunction σ)) :
    Except Error (Terminal σ) := do
  let pairs ← headerPairs config.headers
  let (headers, defaultContentType) :=
    typedHeaders config.contentTypeExplicit template.isSome pairs
  let roles := Roles.ofList config.rolesAllowed
  if !roles.isOpen && r.authenticator.isNone then
    throw (.missingCollaborator "authenticator" path)
  let transactions ← r.transactionsOf config.transactional path
  return {
    function := spec.function
    injections := r.injector.bind spec.specifiers
    template, headers, defaultContentType, roles, transactions
    authenticator := r.authenticator
    serializer := r.serializer }

/-- What is checked of a route before its template is compiled. -/
def prepare (r : Registry σ) (path : String) (options : Options σ) :
    Except Error (PathPattern × HandlerConfig σ × Option (Predicate σ)) := do
  let pattern ← PathPattern.ofText path
  let config ← HandlerConfig.validate options r.defaults
  let predicate ← r.compilePredicate config.predicate
  return (pattern, config, predicate)

def route (r : Registry σ) (method : Method) (path : String) (options : Options σ)
    (spec : HandlerSpec (RouteFunction σ)) : StateM σ (Except Error (Registry σ)) :=
  match r.prepare path options with
  | .error error => pure (.error error)
  | .ok (pattern, config, predicate) => do
    match ← r.findTemplate config path with
    | .error error => return .error error
    | .ok template =>
      return (r.terminalOf path config template spec).map fun terminal ↦
        { r with routes := r.routes ++ [⟨method, pattern, predicate, terminal⟩] }

/-- Adds a wrapper around every route, also around those that were added before. -/
def wrapper (r : Registry σ) (predicate : Option (PredicateSource σ))
    (spec : HandlerSpec (WrapperFunction σ)) : Except Error (Registry σ) := do
  let predicate ← r.compilePredicate predicate
  let injections := r.injector.bind spec.specifiers
  return { r with wrappers := r.wrappers ++ [{ predicate, injections, function := spec.function }] }

def withAlias (r : Registry σ) (name specifier : String) : Registry σ :=
  { r with injector := r.injector.withAlias name specifier }

def setDefault (r : Registry σ) (name : String) (value : OptionValue σ) :
    Except Error (Registry σ) := do
  return { r with defaults := ← r.defaults.set name value }

def channel (r : Registry σ) (path : String) (spec : HandlerSpec (ChannelFunction σ)) :
    Except Error (Registry σ) := do
  let pattern ← PathPattern.ofText path
  let injections := r.injector.bind spec.specifiers
  return { r with channels := r.channels ++ [{ pattern, function := spec.function, injections }] }

def resolve (r : Registry σ) (specifier : String) : StateM σ (Except Error (Injected σ)) :=
  r.injector.resolveManually specifier

end Registry

end WebDispatch
