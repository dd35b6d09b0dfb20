import WebDispatch.Text.Split
import WebDispatch.Text.Utf8

namespace WebDispatch

inductive FileFault
  | notFound
  | notFolder
  | isFolder
  | nameTooLong
  | nullCharacter
  | notText
  deriving DecidableEq, Repr

def FileFault.message : FileFault → String
  | .notFound => "No such file or directory (os error 2)"
  | .notFolder => "Not a directory (os error 20)"
  | .isFolder => "Is a directory (os error 21)"
  | .nameTooLong => "File name too long (os error 36)"
  | .nullCharacter => "file name contained an unexpected NUL byte"
  | .notText => "stream did not contain valid UTF-8"

structure Directory where
  path : String
  isPresent : Bool := true
  /-- The files with the steps that lead to them; of two with the same steps the later one counts.
  -/
  files : List (List String × Bytes) := []

namespace Directory

def ofFiles (path : String) (files : List (String × Bytes)) : Directory where
  path
  files := files.map fun f ↦ ((Text.pieces '/' f.1).filter (!·.isEmpty), f.2)

def data? (d : Directory) (place : List String) : Option Bytes :=
  (d.files.reverse.find? fun f ↦ f.1 == place).map Prod.snd

def isFolder (d : Directory) (place : List String) : Bool :=
  place.isEmpty || d.files.any fun f ↦ place.isPrefixOf f.1 && f.1 != place

def maxName : Nat := 255

def maxPath : Nat := 4096

inductive Place
  | inside (steps : List String)
  | around
  deriving DecidableEq, Repr

def isStay (name : String) : Bool :=
  name == "" || name == "."

/-- One step from a place, which must be a folder. -/
def step (d : Directory) (place : Place) (name : String) : Except FileFault Place :=
  match place with
  | .inside steps =>
    let next := steps ++ [name]
    if !d.isFolder steps then .error .notFolder
    else if isStay name then .ok place
    else if name = ".." then .ok (if steps.isEmpty then .around else .inside steps.dropLast)
    else if maxName < name.utf8ByteSize then .error .nameTooLong
    else if (d.data? next).isSome || d.isFolder next then .ok (.inside next)
    else .error .notFound
  | .around =>
    if isStay name ∨ name = ".." then .ok .around
    else if maxName < name.utf8ByteSize then .error .nameTooLong
    else .error .notFound

def isAbsolute (name : String) : Bool :=
  name.toList.head? == some '/'

def resolve (d : Directory) (name : String) : Except FileFault Place :=
  if isAbsolute name then (Text.pieces '/' name).foldlM d.step .around
  else if d.isPresent then (Text.pieces '/' name).foldlM d.step (.inside [])
  else .error .notFound

def readText (d : Directory) (name : String) : Except FileFault String := do
  if name.toList.contains '\x00' then throw .nullCharacter
  if maxPath ≤ name.utf8ByteSize then throw .nameTooLong
  match ← d.resolve name with
  | .around => throw .isFolder
  | .inside steps =>
    match d.data? steps with
    | none => throw .isFolder
    | some data =>
      match Text.Utf8.decode? data with
      | some s => return s
      | none => throw .notText

def displayPath (d : Directory) (name : String) : String :=
  if isAbsolute name then name else d.path ++ "/" ++ name

end Directory

end WebDispatch
