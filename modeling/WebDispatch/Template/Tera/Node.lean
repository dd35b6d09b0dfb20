import WebDispatch.Text.Blank
import WebDispatch.Text.Split

namespace WebDispatch.Tera

inductive Operand
  | literal (b : Bool)
  | path (first : String) (steps : List String)
  deriving DecidableEq, Repr

structure Term where
  isNegated : Bool := false
  operand : Operand
  filters : List String
  deriving DecidableEq, Repr

/-- Alternatives, each a row of terms that all have to hold. One term alone is a value. -/
structure Expr where
  alternatives : List (List Term)
  deriving DecidableEq, Repr

inductive Node
  | text (cs : List Char)
  | print (e : Expr)
  | loop (keyName : Option String) (valueName : String) (container : Term)
      (body empty : List Node)
  | branch (e : Expr) (yes no : List Node)

/-! ### Words -/

def isSpace (c : Char) : Bool :=
  c == ' ' || c == '\t' || c == '\r' || c == '\n'

def skipSpaces (cs : List Char) : List Char :=
  cs.dropWhile isSpace

def isWordChar (c : Char) : Bool :=
  c.isAlphanum || c == '_'

def isWord (s : String) : Bool :=
  !s.isEmpty && s.toList.all isWordChar

def isName (s : String) : Bool :=
  isWord s && !(s.toList.take 1).all Char.isDigit

def word (cs : List Char) : String × List Char :=
  (.ofList (cs.takeWhile isWordChar), cs.dropWhile isWordChar)

def nameAtStart (cs : List Char) : Option (String × List Char) :=
  let (name, rest) := word cs
  if isName name then some (name, rest) else none

def behind? (w : String) (cs : List Char) : Option (List Char) :=
  if w.toList.isPrefixOf cs then some (cs.drop w.length) else none

def behindSpaces? : List Char → Option (List Char)
  | c :: cs => if isSpace c then some (skipSpaces cs) else none
  | [] => none

/-! ### Expressions -/

def literals : List (String × Bool) :=
  [("true", true), ("false", false), ("True", true), ("False", false)]

def pathOf (s : String) : Option Operand :=
  match Text.pieces '.' s with
  | first :: steps =>
    if isName first && steps.all isWord then some (.path first steps) else none
  | [] => none

/-- The operand at the beginning of a text, and the text behind it. A literal is one also where a
longer word begins with it. -/
def Operand.read? (cs : List Char) : Option (Operand × List Char) :=
  let isPathChar (c : Char) : Bool := isWordChar c || c == '.'
  match literals.findSome? fun l ↦ (behind? l.1 cs).map fun rest ↦ (.literal l.2, rest) with
  | some p => some p
  | none =>
    (pathOf (.ofList (cs.takeWhile isPathChar))).map fun o ↦ (o, cs.dropWhile isPathChar)

def readFilters : Nat → List Char → Option (List String × List Char)
  | 0, _ => none
  | fuel + 1, cs =>
    match skipSpaces cs with
    | '|' :: cs => do
      let (name, rest) ← nameAtStart (skipSpaces cs)
      let rest ←
        match rest with
        | '(' :: cs => behind? ")" (skipSpaces cs)
        | rest => some rest
      let (names, rest) ← readFilters fuel rest
      return (name :: names, rest)
    | cs => some ([], cs)

def Term.read? (cs : List Char) : Option (Term × List Char) := do
  let negated? := (behind? "not" cs).bind behindSpaces?
  let (operand, rest) ← Operand.read? (negated?.getD cs)
  let (filters, rest) ← readFilters (rest.length + 1) rest
  return ({ isNegated := negated?.isSome, operand, filters }, rest)

def readAlternatives : Nat → List Char → Option (List (List Term))
  | 0, _ => none
  | fuel + 1, cs => do
    let (t, rest) ← Term.read? (skipSpaces cs)
    if rest.isEmpty then return [[t]]
    match (behind? "and" rest).bind behindSpaces?, (behind? "or" rest).bind behindSpaces? with
    | some rest, _ =>
      match ← readAlternatives fuel rest with
      | ts :: alternatives => return (t :: ts) :: alternatives
      | [] => none
    | none, some rest => return [t] :: (← readAlternatives fuel rest)
    | none, none => none

def Expr.parse (cs : List Char) : Option Expr :=
  (readAlternatives (cs.length + 1) cs).map Expr.mk

def containerOf (cs : List Char) : Option Term := do
  let (operand, rest) ← Operand.read? cs
  let (filters, rest) ← readFilters (rest.length + 1) rest
  if rest.isEmpty then some { operand, filters } else none

/-! ### Tags -/

inductive Tag
  | loop (keyName : Option String) (valueName : String) (container : Term)
  | endLoop
  | branch (e : Expr)
  | elseBranch (e : Expr)
  | otherwise
  | endBranch

def loopNames (cs : List Char) : Option ((Option String × String) × List Char) := do
  let (name, rest) ← nameAtStart cs
  match rest with
  | ',' :: cs =>
    let (valueName, rest) ← nameAtStart (skipSpaces cs)
    return ((some name, valueName), rest)
  | rest => return ((none, name), rest)

def Tag.parse (cs : List Char) : Option Tag := do
  let (keyword, rest) := word (skipSpaces cs)
  if keyword = "for" then
    let ((keyName, valueName), rest) ← loopNames (← behindSpaces? rest)
    let rest ← behind? "in" (← behindSpaces? rest)
    return .loop keyName valueName (← containerOf (← behindSpaces? rest))
  if keyword = "if" then return .branch (← Expr.parse (← behindSpaces? rest))
  if keyword = "elif" then return .elseBranch (← Expr.parse (← behindSpaces? rest))
  guard (rest.all isSpace)
  if keyword = "endfor" then return .endLoop
  if keyword = "else" then return .otherwise
  if keyword = "endif" then return .endBranch
  none

/-! ### Parts -/

inductive Content
  | text (cs : List Char)
  | print (e : Expr)
  | tag (t : Tag)
  | comment

/-- A part of a template, with whether it takes the blanks off the text before it and off the text
behind it. -/
structure Part where
  content : Content
  trimsBefore : Bool := false
  trimsBehind : Bool := false

def cutAtPair (a b : Char) : List Char → Option (List Char × List Char)
  | c :: d :: cs =>
    if c = a ∧ d = b then some ([], cs)
    else (cutAtPair a b (d :: cs)).map fun p ↦ (c :: p.1, p.2)
  | _ => none

def textRun : List Char → List Char × List Char
  | '{' :: '{' :: cs => ([], '{' :: '{' :: cs)
  | '{' :: '%' :: cs => ([], '{' :: '%' :: cs)
  | '{' :: '#' :: cs => ([], '{' :: '#' :: cs)
  | c :: cs => (c :: (textRun cs).1, (textRun cs).2)
  | [] => ([], [])

def Part.read? (read : List Char → Option Content) (close : Char) (cs : List Char) :
    Option (Part × List Char) := do
  let (inner, rest) ← cutAtPair close '}' cs
  let trimsBefore := inner.head? == some '-'
  let inner := if trimsBefore then inner.tail else inner
  let trimsBehind := inner.getLast? == some '-'
  let inner := if trimsBehind then inner.dropLast else inner
  return (⟨← read inner, trimsBefore, trimsBehind⟩, rest)

def commentOf (cs : List Char) : Option Content :=
  if cs.isEmpty then none else some .comment

/-- The parts of a template. Each takes a character at least, so the length of the text is fuel
enough. -/
def parts : Nat → List Char → Option (List Part)
  | _, [] => some []
  | 0, _ => none
  | fuel + 1, '{' :: '{' :: cs => do
    let (p, rest) ← Part.read? (fun cs ↦ (Expr.parse (skipSpaces cs)).map .print) '}' cs
    return p :: (← parts fuel rest)
  | fuel + 1, '{' :: '%' :: cs => do
    let (p, rest) ← Part.read? (fun cs ↦ (Tag.parse cs).map .tag) '%' cs
    return p :: (← parts fuel rest)
  | fuel + 1, '{' :: '#' :: cs => do
    let (p, rest) ← Part.read? commentOf '#' cs
    return p :: (← parts fuel rest)
  | fuel + 1, c :: cs => do
    let (text, rest) := textRun cs
    return { content := .text (c :: text) } :: (← parts fuel rest)

/-- The contents of parts, given whether the part before them takes the blanks off a text. -/
def contents : Bool → List Part → List Content
  | _, [] => []
  | isTrimmed, p :: ps =>
    match p.content with
    | .text cs =>
      let cs := if isTrimmed then cs.dropWhile Text.isBlank else cs
      let isTrimmedBehind := (ps.head?.map Part.trimsBefore).getD false
      let cs := if isTrimmedBehind then (cs.reverse.dropWhile Text.isBlank).reverse else cs
      .text cs :: contents false ps
    | c => c :: contents p.trimsBehind ps

/-! ### Nesting -/

def chain (choices : List (Expr × List Node)) (otherwise : List Node) : List Node :=
  choices.foldl (fun no c ↦ [.branch c.1 c.2 no]) otherwise

inductive Frame
  | loop (keyName : Option String) (valueName : String) (container : Term)
      (before : List Node)
  | empty (keyName : Option String) (valueName : String) (container : Term)
      (body before : List Node)
  | yes (choices : List (Expr × List Node)) (e : Expr) (before : List Node)
  | no (choices : List (Expr × List Node)) (before : List Node)

/-- Nests contents, given the open frames and the nodes inside the innermost, the last one first. -/
def nest : List Frame → List Node → List Content → Option (List Node)
  | [], nodes, [] => some nodes.reverse
  | _ :: _, _, [] => none
  | fs, nodes, .text cs :: ps => nest fs (.text cs :: nodes) ps
  | fs, nodes, .print e :: ps => nest fs (.print e :: nodes) ps
  | fs, nodes, .comment :: ps => nest fs nodes ps
  | fs, nodes, .tag (.loop k v c) :: ps => nest (.loop k v c nodes :: fs) [] ps
  | fs, nodes, .tag (.branch e) :: ps => nest (.yes [] e nodes :: fs) [] ps
  | .loop k v c before :: fs, nodes, .tag .otherwise :: ps =>
    nest (.empty k v c nodes.reverse before :: fs) [] ps
  | .loop k v c before :: fs, nodes, .tag .endLoop :: ps =>
    nest fs (.loop k v c nodes.reverse [] :: before) ps
  | .empty k v c body before :: fs, nodes, .tag .endLoop :: ps =>
    nest fs (.loop k v c body nodes.reverse :: before) ps
  | .yes choices e before :: fs, nodes, .tag (.elseBranch e') :: ps =>
    nest (.yes ((e, nodes.reverse) :: choices) e' before :: fs) [] ps
  | .yes choices e before :: fs, nodes, .tag .otherwise :: ps =>
    nest (.no ((e, nodes.reverse) :: choices) before :: fs) [] ps
  | .yes choices e before :: fs, nodes, .tag .endBranch :: ps =>
    nest fs (chain ((e, nodes.reverse) :: choices) [] ++ before) ps
  | .no choices before :: fs, nodes, .tag .endBranch :: ps =>
    nest fs (chain choices nodes.reverse ++ before) ps
  | _, _, .tag _ :: _ => none

def parse (s : String) : Option (List Node) :=
  (parts (s.length + 1) s.toList).bind fun ps ↦ nest [] [] (contents false ps)

end WebDispatch.Tera
