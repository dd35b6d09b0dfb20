import WebDispatch.Error
import WebDispatch.Text.Percent
import WebDispatch.Text.Split

namespace WebDispatch

namespace PathPattern

inductive Segment
  | literal (text : String)
  | param (name : String)
  | catchAll (name : String)
  deriving DecidableEq, Repr

inductive Fault
  | notRooted
  | catchAllNotLast
  | emptyName
  deriving DecidableEq, Repr

def Fault.message : Fault → String
  | .notRooted => "must start with '/'"
  | .catchAllNotLast => "catch-all must be the last segment"
  | .emptyName => "empty parameter name"

/-- The segments of a path that are not empty. -/
def segmentsOf (path : String) : List String :=
  (Text.pieces '/' path).filter (!·.isEmpty)

/-- What stands between braces around the whole of a text. -/
def braced? (cs : List Char) : Option (List Char) :=
  match cs with
  | '{' :: cs => if cs.getLast? = some '}' then some cs.dropLast else none
  | _ => none

/-- A segment by its outer braces alone. -/
def Segment.ofText (text : String) : Segment :=
  match braced? text.toList with
  | some ('*' :: name) => .catchAll (.ofList name)
  | some name => .param (.ofList name)
  | none => .literal text

def Segment.fault? (isLast : Bool) : Segment → Option Fault
  | literal _ => none
  | param name => if name.isEmpty then some .emptyName else none
  | catchAll name =>
    if !isLast then some .catchAllNotLast else if name.isEmpty then some .emptyName else none

def firstFault : List Segment → Option Fault
  | [] => none
  | s :: ss => (s.fault? ss.isEmpty).or (firstFault ss)

end PathPattern

structure PathPattern where
  source : String
  segments : List PathPattern.Segment
  deriving DecidableEq, Repr

namespace PathPattern

def parse (path : String) : Except Fault PathPattern :=
  if path.toList.head? ≠ some '/' then .error .notRooted
  else
    let segments := (segmentsOf path).map .ofText
    match firstFault segments with
    | some f => .error f
    | none => .ok ⟨path, segments⟩

def ofText (path : String) : Except Error PathPattern :=
  match parse path with
  | .ok p => .ok p
  | .error f => .error (.invalidPath path f.message)

def matchSegments : List Segment → List String → Option (List (String × String))
  | [], [] => some []
  | [], _ :: _ => none
  | .catchAll name :: _, parts => some [(name, "/".intercalate parts)]
  | _ :: _, [] => none
  | .literal text :: ss, part :: parts => if part = text then matchSegments ss parts else none
  | .param name :: ss, part :: parts =>
    (matchSegments ss parts).map ((name, Text.Percent.decodeText part) :: ·)

def captures? (p : PathPattern) (path : String) : Option (List (String × String)) :=
  matchSegments p.segments (segmentsOf path)

def describe (p : PathPattern) : String :=
  "PathPattern(" ++ p.source ++ ")"

end PathPattern

end WebDispatch
