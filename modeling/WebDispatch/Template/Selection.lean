import WebDispatch.Template.Directory
import WebDispatch.Text.Glob

namespace WebDispatch.Directory

def writtenSteps (path : String) : List String :=
  (Text.pieces '/' path).filter fun s ↦ !isStay s

def folderSteps (d : Directory) (path : String) : List String :=
  match d.resolve path with
  | .ok (.inside steps) => steps
  | _ => writtenSteps path

def isPatternStep (step : String) : Bool :=
  step.toList.any fun c ↦ c == '*' || c == '{' || c == '}'

def filesBelow (d : Directory) (folder : List String) : List (List String × Bytes) :=
  match d.resolve ("/".intercalate folder) with
  | .ok (.inside steps) => d.files.filterMap fun f ↦
    if steps.isPrefixOf f.1 && f.1 != steps then some (f.1.drop steps.length, f.2) else none
  | _ => []

/-- The files that fit a pattern, given what it writes before its first star and what from there
on. There is no answer to an illegal pattern, nor if a file fits that is not in the folder that the
pattern names. -/
def select? (d : Directory) (before behind : String) : Option (List (String × Bytes)) := do
  let folder := d.folderSteps before
  let steps := folder ++ writtenSteps behind
  let base := steps.takeWhile (!isPatternStep ·)
  let isFit ← Text.Glob.ofPattern? ("/".intercalate (steps.drop base.length)).toList
  let found := (d.filesBelow base).filter fun f ↦ isFit ("/".intercalate f.1)
  found.mapM fun f ↦ do
    let inner := folder.drop base.length
    guard (inner.isPrefixOf f.1)
    return ("/".intercalate (f.1.drop inner.length), f.2)

end WebDispatch.Directory
