import WebDispatch.Predicate

namespace WebDispatch

inductive OptionKey
  | template
  | templateType
  | headers
  | predicate
  | rolesAllowed
  | transactional
  deriving DecidableEq, Repr

namespace OptionKey

def all : List OptionKey :=
  [template, templateType, headers, predicate, rolesAllowed, transactional]

def text : OptionKey → String
  | template => "template"
  | templateType => "template_type"
  | headers => "headers"
  | predicate => "predicate"
  | rolesAllowed => "roles_allowed"
  | transactional => "transactional"

def describe : OptionKey → String
  | template => "Template"
  | templateType => "TemplateType"
  | headers => "Headers"
  | predicate => "Predicate"
  | rolesAllowed => "RolesAllowed"
  | transactional => "Transactional"

def parse (name : String) : Except Error OptionKey :=
  match all.find? fun k ↦ k.text = name with
  | some k => .ok k
  | none => .error (.unknownOption name)

theorem parse_text (k : OptionKey) : parse k.text = .ok k := by
  cases k <;> simp [parse, all, text]

end OptionKey

inductive OptionValue (σ : Type)
  | text (s : String)
  | list (items : List String)
  | map (pairs : List (String × String))
  | bool (b : Bool)
  | predicate (p : PredicateSource σ)

variable {σ : Type}

def OptionValue.kind : OptionValue σ → String
  | text _ => "string"
  | list _ => "list"
  | map _ => "mapping"
  | bool _ => "boolean"
  | predicate _ => "predicate"

namespace OptionKey

def admits : OptionKey → OptionValue σ → Bool
  | template, .text _ => true
  | templateType, .text _ => true
  | headers, .map _ => true
  | predicate, .text _ => true
  | predicate, .predicate _ => true
  | rolesAllowed, .text _ => true
  | rolesAllowed, .list _ => true
  | transactional, .bool _ => true
  | _, _ => false

def check (k : OptionKey) (v : OptionValue σ) : Except Error Unit :=
  if k.admits v then .ok ()
  else .error (.invalidOption k.text ("unexpected " ++ v.kind ++ " value"))

end OptionKey

/-- The options of one registration in the order in which they were given. -/
structure Options (σ : Type) where
  entries : List (String × OptionValue σ) := []

namespace Options

def empty : Options σ := {}

def isEmpty (o : Options σ) : Bool :=
  o.entries.isEmpty

def set (o : Options σ) (name : String) (value : OptionValue σ) : Options σ :=
  ⟨o.entries ++ [(name, value)]⟩

def template (o : Options σ) (name : String) : Options σ :=
  o.set OptionKey.template.text (.text name)

def templateType (o : Options σ) (engine : String) : Options σ :=
  o.set OptionKey.templateType.text (.text engine)

def predicate (o : Options σ) (p : PredicateSource σ) : Options σ :=
  o.set OptionKey.predicate.text (.predicate p)

def rolesAllowed (o : Options σ) (roles : List String) : Options σ :=
  o.set OptionKey.rolesAllowed.text (.list roles)

def transactional (o : Options σ) (enabled : Bool) : Options σ :=
  o.set OptionKey.transactional.text (.bool enabled)

/-- Entries with a pair more in the first one for headers, if there is one and it is a map. -/
def extendHeaders (pair : String × String) :
    List (String × OptionValue σ) → Option (List (String × OptionValue σ))
  | [] => none
  | (name, value) :: es =>
    if name = OptionKey.headers.text then
      match value with
      | .map pairs => some ((name, .map (pairs ++ [pair])) :: es)
      | _ => none
    else (extendHeaders pair es).map ((name, value) :: ·)

def header (o : Options σ) (name value : String) : Options σ :=
  match extendHeaders (name, value) o.entries with
  | some entries => ⟨entries⟩
  | none => o.set OptionKey.headers.text (.map [(name, value)])

def ofPredicate (p : PredicateSource σ) : Options σ :=
  empty.predicate p

/-! ### Options as JSON -/

def listOfJson (name : String) : List Json → Except Error (List String)
  | [] => .ok []
  | .string s :: items => (listOfJson name items).map (s :: ·)
  | _ :: _ => .error (.invalidOption name "list items must be strings")

def mapOfJson (name : String) : List (String × Json) → Except Error (List (String × String))
  | [] => .ok []
  | (k, .string s) :: fields => (mapOfJson name fields).map ((k, s) :: ·)
  | _ :: _ => .error (.invalidOption name "mapping values must be strings")

/-- The value of one field; a text for the predicate is an expression. -/
def valueOfJson (name : String) : Json → Except Error (OptionValue σ)
  | .string s =>
    if name = OptionKey.predicate.text then .ok (.predicate (.expression s)) else .ok (.text s)
  | .bool b => .ok (.bool b)
  | .array items => (listOfJson name items).map .list
  | .object fields => (mapOfJson name fields).map .map
  | .null => .error (.invalidOption name "unsupported value")
  | .number _ => .error (.invalidOption name "unsupported value")

def entriesOfJson : List (String × Json) → Except Error (List (String × OptionValue σ))
  | [] => .ok []
  | (name, v) :: fields => do
    let value ← valueOfJson name v
    return (name, value) :: (← entriesOfJson fields)

def ofJson : Json → Except Error (Options σ)
  | .object fields => (entriesOfJson fields).map Options.mk
  | _ => .error (.invalidOption "options" "expected an object")

end Options

end WebDispatch
