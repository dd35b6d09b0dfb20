import WebDispatch.Template.Data
import WebDispatch.Template.Mustache.Node

namespace WebDispatch.Mustache

def descend (d : TemplateData) (path : List String) : Option TemplateData :=
  path.foldlM (fun d name ↦ d.get? name) d

/-- The value of a path. Its first name is looked for down the stack, the others only inside. -/
def find (stack : List TemplateData) : List String → Option TemplateData
  | [] => stack.head?
  | name :: path => (stack.findSome? fun d ↦ d.get? name).bind (descend · path)

def escape (c : Char) : List Char :=
  match c with
  | '&' => "&amp;".toList
  | '<' => "&lt;".toList
  | '>' => "&gt;".toList
  | '"' => "&quot;".toList
  | '\'' => "&#39;".toList
  | c => [c]

def print : Option TemplateData → Option (List Char)
  | none => some []
  | some .null => some []
  | some (.string s) => some s.toList
  | some (.number n) => some n.toPlainText
  | some _ => none

def sectionStacks (stack : List TemplateData) : Option TemplateData → List (List TemplateData)
  | none => []
  | some .null => []
  | some (.bool b) => if b then [stack] else []
  | some (.string s) => if s.isEmpty then [] else [.string s :: stack]
  | some (.list items) => items.map (· :: stack)
  | some d => [d :: stack]

def isAbsent : Option TemplateData → Bool
  | none => true
  | some .null => true
  | some (.bool b) => !b
  | some (.list items) => items.isEmpty
  | some _ => false

mutual

def renderNode : Node → List TemplateData → Option (List Char)
  | .text cs, _ => some cs
  | .value path escaped, stack => do
    let cs ← print (find stack path)
    return if escaped then cs.flatMap escape else cs
  | .section path inverted children, stack =>
    if inverted then
      if isAbsent (find stack path) then renderAll children stack else some []
    else
      ((sectionStacks stack (find stack path)).mapM (renderAll children)).map List.flatten
  | .inclusion _, _ => some []

def renderAll : List Node → List TemplateData → Option (List Char)
  | [], _ => some []
  | n :: ns, stack => do
    let first ← renderNode n stack
    let others ← renderAll ns stack
    return first ++ others

end

def render (template : List Node) (d : TemplateData) : Option String :=
  (renderAll template [d]).map .ofList

end WebDispatch.Mustache
