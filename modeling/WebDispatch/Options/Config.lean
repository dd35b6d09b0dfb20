import WebDispatch.Http.Header
import WebDispatch.Options.Basic
import WebDispatch.Text.Case

namespace WebDispatch

variable {σ : Type}

structure Defaults (σ : Type) where
  get? : OptionKey → Option (OptionValue σ)

namespace Defaults

def templateType : String := "mustache"

def contentType : String := "text/plain; charset=UTF-8"

def initial : Defaults σ where
  get?
    | .templateType => some (.text templateType)
    | .headers => some (.map [(Http.HeaderName.contentType.text, contentType)])
    | .transactional => some (.bool false)
    | _ => none

def set (d : Defaults σ) (name : String) (value : OptionValue σ) : Except Error (Defaults σ) := do
  let key ← OptionKey.parse name
  key.check value
  return ⟨fun k ↦ if k = key then some value else d.get? k⟩

def keys (d : Defaults σ) : List OptionKey :=
  OptionKey.all.filter fun k ↦ (d.get? k).isSome

end Defaults

namespace Options

def checked : List (String × OptionValue σ) → Except Error (List (OptionKey × OptionValue σ))
  | [] => .ok []
  | (name, value) :: es => do
    let key ← OptionKey.parse name
    key.check value
    return (key, value) :: (← checked es)

def last? (es : List (OptionKey × OptionValue σ)) (key : OptionKey) : Option (OptionValue σ) :=
  (es.filter fun e ↦ e.1 = key).getLast?.map Prod.snd

end Options

structure HandlerConfig (σ : Type) where
  template : Option String
  templateType : String
  /-- The default ones and then the registration's own. -/
  headers : List (String × String)
  contentTypeExplicit : Bool
  predicate : Option (PredicateSource σ)
  rolesAllowed : List String
  transactional : Bool

namespace HandlerConfig

/-- A header after all others and in place of those of its name. -/
def overlay (headers : List (String × String)) (own : String × String) : List (String × String) :=
  headers.filter (fun h ↦ !Text.sameIgnoringCase h.1 own.1) ++ [own]

def isContentType (header : String × String) : Bool :=
  Text.sameIgnoringCase header.1 Http.HeaderName.contentType.text

def pairs : Option (OptionValue σ) → List (String × String)
  | some (.map pairs) => pairs
  | _ => []

def textOf : Option (OptionValue σ) → Option String
  | some (.text s) => some s
  | _ => none

def predicateOf : Option (OptionValue σ) → Option (PredicateSource σ)
  | some (.predicate p) => some p
  | some (.text s) => some (.expression s)
  | _ => none

def rolesOf : Option (OptionValue σ) → List String
  | some (.text s) => [s]
  | some (.list roles) => roles
  | _ => []

def isTrue : Option (OptionValue σ) → Bool
  | some (.bool b) => b
  | _ => false

def ofGiven (given : OptionKey → Option (OptionValue σ)) (defaults : Defaults σ) :
    HandlerConfig σ :=
  let effective key := (given key).or (defaults.get? key)
  let own := pairs (given .headers)
  { template := textOf (effective .template)
    templateType := (textOf (effective .templateType)).getD Defaults.templateType
    headers := own.foldl overlay (pairs (defaults.get? .headers))
    contentTypeExplicit := own.any isContentType
    predicate := predicateOf (effective .predicate)
    rolesAllowed := rolesOf (effective .rolesAllowed)
    transactional := isTrue (effective .transactional) }

def validate (options : Options σ) (defaults : Defaults σ) : Except Error (HandlerConfig σ) :=
  (Options.checked options.entries).map fun es ↦ ofGiven (Options.last? es) defaults

def contentType? (c : HandlerConfig σ) : Option String :=
  (c.headers.find? isContentType).map Prod.snd

end HandlerConfig

end WebDispatch
