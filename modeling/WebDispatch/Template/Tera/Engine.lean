import WebDispatch.Table
import WebDispatch.Template.Engine
import WebDispatch.Template.Selection
import WebDispatch.Template.Tera.Render

namespace WebDispatch

structure TeraEngine where
  templates : Table (List Tera.Node) := {}

namespace TeraEngine

def name : String := "tera"

def isMarkup (name : String) : Bool :=
  [".html", ".htm", ".xml"].any fun ending ↦ ending.toList.isSuffixOf name.toList

def addSource (e : TeraEngine) (name source : String) (fault : String := "malformed template") :
    Except Error TeraEngine :=
  match Tera.parse source with
  | some nodes => .ok ⟨e.templates.insert name nodes⟩
  | none => .error (.template name fault)

def addSources (e : TeraEngine) (sources : List (String × String)) : Except Error TeraEngine :=
  sources.foldlM (fun e s ↦ e.addSource s.1 s.2) e

def addFile (e : TeraEngine) (name : String) (data : Bytes) : Option TeraEngine := do
  let source ← Text.Utf8.decode? data
  let nodes ← Tera.parse source
  return ⟨e.templates.insert name nodes⟩

/-- An engine with the files of a directory that fit a pattern, under their paths in the folder that
the pattern names, or else what the engine says of the pattern or of a file. -/
def ofGlob (d : Directory) (pattern : String) (fault : String := "no templates") :
    Outcome TeraEngine :=
  let refused : Outcome TeraEngine :=
    .error (.framework (.template (d.path ++ "/" ++ pattern) fault))
  match Text.cut '*' pattern with
  | none => refused
  | some (before, behind) =>
    match d.select? ("./" ++ before) ("*" ++ behind) with
    | none => .panic (.text "the pattern is illegal")
    | some files =>
      match files.foldlM (fun e f ↦ e.addFile f.1 f.2) ({} : TeraEngine) with
      | some e => .ok e
      | none => refused

def template {σ : Type} (name : String) (nodes : List Tera.Node) : Template σ where
  apply d := pure <|
    match Tera.render (isMarkup name) nodes d with
    | .ok s => .ok s
    | .error (.message m) => .error (.framework (.template name m))
    | .error .noCluster => .panic (.text "a loop over a text has more rounds than clusters")

def toEngine {σ : Type} (e : TeraEngine) : Engine σ where
  name := name
  getTemplate name := pure <|
    match e.templates.get? name with
    | some nodes => .ok (template name nodes)
    | none => .error (.template name "template not found")

end TeraEngine

end WebDispatch
