import WebDispatch.Table
import WebDispatch.Template.Directory
import WebDispatch.Template.Engine
import WebDispatch.Template.Mustache.Parser
import WebDispatch.Template.Mustache.Render

namespace WebDispatch

structure MustacheEngine where
  directory : Option Directory := none
  sources : Table String := {}

namespace MustacheEngine

def name : String := "mustache"

def ofDirectory (d : Directory) : MustacheEngine :=
  { directory := some d }

def compile (name source : String) : Except Error (List Mustache.Node) :=
  match Mustache.parse source with
  | .ok nodes => .ok nodes
  | .error f => .error (.template name f.message)

def addSource (e : MustacheEngine) (name source : String) : Except Error MustacheEngine := do
  let _ ← compile name source
  return { e with sources := e.sources.insert name source }

def addSources (e : MustacheEngine) (sources : List (String × String)) :
    Except Error MustacheEngine :=
  sources.foldlM (fun e s ↦ e.addSource s.1 s.2) e

def source (e : MustacheEngine) (name : String) : Except Error String :=
  match e.sources.get? name, e.directory with
  | some s, _ => .ok s
  | none, none => .error (.template name "template not found")
  | none, some d =>
    match d.readText name with
    | .ok s => .ok s
    | .error f =>
      .error (.template name ("cannot read " ++ d.displayPath name ++ ": " ++ f.message))

def template {σ : Type} (nodes : List Mustache.Node) : Template σ where
  apply d := pure <|
    match Mustache.render nodes d with
    | some s => .ok s
    | none => .panic (.text "a tag prints a value that has no text")

def toEngine {σ : Type} (e : MustacheEngine) : Engine σ where
  name := name
  getTemplate name := pure do
    let nodes ← compile name (← e.source name)
    return template nodes

end MustacheEngine

end WebDispatch
