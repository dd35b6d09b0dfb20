import WebDispatch.Template.Data
import WebDispatch.Template.Tera.Node
import WebDispatch.Text.Grapheme

namespace WebDispatch.Tera

inductive Fault
  | message (text : String)
  /-- A loop over a text has a round for each character, and its clusters may be fewer: the value of
  a round behind the last cluster was asked for. -/
  | noCluster
  deriving DecidableEq, Repr

structure Round where
  key : Option String := none
  value : Option TemplateData

structure LoopState where
  keyName : Option String
  valueName : String
  round : Round
  index : Nat
  count : Nat

structure Scope where
  loops : List LoopState := []
  data : List (String × TemplateData)

/-! ### Looking up -/

def place? (name : String) : Option Nat :=
  match name.toList with
  | ['0'] => some 0
  | '0' :: _ => none
  | cs => if cs.isEmpty || !cs.all Char.isDigit then none else name.toNat?

def child (d : TemplateData) (name : String) : Option TemplateData :=
  match d with
  | .list items => (place? name).bind fun n ↦ items[n]?
  | d => d.get? name

def LoopState.progress? (l : LoopState) : List String → Option TemplateData
  | ["index"] => some (.number (.int (l.index + 1)))
  | ["index0"] => some (.number (.int l.index))
  | ["first"] => some (.bool (l.index == 0))
  | ["last"] => some (.bool (l.index + 1 == l.count))
  | _ => none

/-- The value of a path in a loop. The name of the progress hides a variable of that name. -/
def LoopState.find? (l : LoopState) (first : String) (steps : List String) :
    Except Fault (Option TemplateData) :=
  if steps = [] ∧ l.keyName = some first then .ok (l.round.key.map .string)
  else if first = "loop" then .ok (l.progress? steps)
  else if first = l.valueName then
    match l.round.value with
    | some d => .ok (steps.foldlM child d)
    | none => .error .noCluster
  else .ok none

def lookup (first : String) (steps : List String) (data : List (String × TemplateData)) :
    List LoopState → Except Fault (Option TemplateData)
  | [] => .ok ((data.lookup first).bind fun d ↦ steps.foldlM child d)
  | l :: ls => do
    match ← l.find? first steps with
    | some d => return some d
    | none => lookup first steps data ls

/-! ### Values -/

def isTrue : TemplateData → Bool
  | .null => false
  | .bool b => b
  | .number n => !n.isZero
  | .string s => !s.isEmpty
  | .list items => !items.isEmpty
  | .map fields => !fields.isEmpty

def lengthOf : TemplateData → Except Fault Nat
  | .list items => .ok items.length
  | .map fields => .ok fields.length
  | .string s => .ok s.length
  | _ => .error (.message "Filter 'length' needs a list, a map or a text")

def applyFilter (d : TemplateData) (filter : String) : Except Fault TemplateData :=
  if filter = "safe" ∨ filter = "default" then .ok d
  else if filter = "length" then (lengthOf d).map fun n ↦ .number (.int n)
  else .error (.message ("Filter '" ++ filter ++ "' not found"))

def Term.filtered (t : Term) (d : TemplateData) : Except Fault TemplateData := do
  let d ← t.filters.foldlM applyFilter d
  return if t.isNegated then .bool !isTrue d else d

/-- The value of a term. The negation of what is not there, or is null, is true. -/
def Term.eval (scope : Scope) (t : Term) : Except Fault TemplateData :=
  match t.operand with
  | .literal b => t.filtered (.bool b)
  | .path first steps => do
    match ← lookup first steps scope.data scope.loops with
    | some .null => if t.isNegated then return .bool true else t.filtered .null
    | some d => t.filtered d
    | none =>
      if t.isNegated ∧ t.filters.head? ≠ some "default" then return .bool true
      else throw (.message ("Variable '" ++ ".".intercalate (first :: steps) ++ "' not found"))

def Term.holds (scope : Scope) (t : Term) : Except Fault Bool :=
  match t.operand with
  | .literal b => .ok (b != t.isNegated)
  | .path .. =>
    match t.eval scope with
    | .ok d => .ok (isTrue d)
    | .error (.message _) => .ok false
    | .error .noCluster => .error .noCluster

def Expr.holds (scope : Scope) (e : Expr) : Except Fault Bool :=
  e.alternatives.anyM fun ts ↦ ts.allM (Term.holds scope)

/-! ### Printing -/

mutual

def textOf : TemplateData → List Char
  | .null => []
  | .bool b => (toString b).toList
  | .number n => n.toPlainText
  | .string s => s.toList
  | .list [] => "[]".toList
  | .list (d :: ds) => '[' :: textOf d ++ textOfItems ds
  | .map _ => "[object]".toList

def textOfItems : List TemplateData → List Char
  | [] => [']']
  | d :: ds => ',' :: ' ' :: textOf d ++ textOfItems ds

end

def escape (c : Char) : List Char :=
  match c with
  | '&' => "&amp;".toList
  | '<' => "&lt;".toList
  | '>' => "&gt;".toList
  | '"' => "&quot;".toList
  | '\'' => "&#x27;".toList
  | '/' => "&#x2F;".toList
  | c => [c]

def printed (escaping : Bool) (filters : List String) (d : TemplateData) : List Char :=
  match d with
  | .string s =>
    if escaping && filters.getLast? != some "safe" then s.toList.flatMap escape else s.toList
  | d => textOf d

def Expr.print (escaping : Bool) (scope : Scope) (e : Expr) : Except Fault (List Char) :=
  match e.alternatives with
  | [[t]] => (t.eval scope).map (printed escaping t.filters)
  | _ => (e.holds scope).map fun b ↦ textOf (.bool b)

/-! ### Loops -/

/-- The rounds of a loop over a value, given whether the loop names keys. Maps have keys, lists and
texts have none. -/
def roundsOf (namesKeys : Bool) : TemplateData → Except Fault (List Round)
  | .list items =>
    if namesKeys then .error (.message "A list has no keys")
    else .ok (items.map fun d ↦ { value := some d })
  | .string s =>
    if namesKeys then .error (.message "A text has no keys")
    else
      let clusters := Text.Grapheme.clusters s
      .ok ((List.range s.length).map fun i ↦ { value := clusters[i]?.map .string })
  | .map fields =>
    if namesKeys then .ok (fields.map fun f ↦ { key := some f.1, value := some f.2 })
    else .error (.message "The keys of a map need a name")
  | _ => .error (.message "The value has no items")

def containerValue (scope : Scope) (t : Term) : Except Fault TemplateData :=
  match t.operand with
  | .literal _ => .error (.message "A loop needs a name")
  | .path .. => t.eval scope

mutual

def renderNode (escaping : Bool) : Node → Scope → Except Fault (List Char)
  | .text cs, _ => .ok cs
  | .print e, scope => e.print escaping scope
  | .loop keyName valueName container body empty, scope => do
    let rounds ← roundsOf keyName.isSome (← containerValue scope container)
    if rounds.isEmpty then renderAll escaping empty scope
    else
      let texts ← rounds.zipIdx.mapM fun p ↦
        let state : LoopState := ⟨keyName, valueName, p.1, p.2, rounds.length⟩
        renderAll escaping body { scope with loops := state :: scope.loops }
      return texts.flatten
  | .branch e yes no, scope => do
    if ← e.holds scope then renderAll escaping yes scope else renderAll escaping no scope

def renderAll (escaping : Bool) : List Node → Scope → Except Fault (List Char)
  | [], _ => .ok []
  | n :: ns, scope => do
    let first ← renderNode escaping n scope
    let others ← renderAll escaping ns scope
    return first ++ others

end

def namesOf : TemplateData → List (String × TemplateData)
  | .map fields => fields
  | d => [("data", d)]

/-- A path is followed in the loops around, from the inside out, and then in the data; one that leads
nowhere is an error, except where it is negated or decides a choice. -/
def render (escaping : Bool) (template : List Node) (d : TemplateData) : Except Fault String :=
  (renderAll escaping template { data := namesOf d }).map .ofList

end WebDispatch.Tera
