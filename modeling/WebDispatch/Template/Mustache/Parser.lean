import WebDispatch.Template.Mustache.Node
import WebDispatch.Text.Blank
import WebDispatch.Text.Split

namespace WebDispatch.Mustache

structure Delimiters where
  opening : List Char := ['{', '{']
  closing : List Char := ['}', '}']

/-- The text up to an opening delimiter, and what follows that, if there is one. Of the delimiter,
the pending characters are still to come. -/
def textRun (opening : List Char) : List Char → List Char → List Char × Option (List Char)
  | pending, [] => (opening.take (opening.length - pending.length), none)
  | [], c :: cs => ([], some (c :: cs))
  | p :: pending, c :: cs =>
    if c = p then
      if pending.isEmpty then ([], some cs) else textRun opening pending cs
    else
      let run := textRun opening opening cs
      (opening.take (opening.length - (pending.length + 1)) ++ c :: run.1, run.2)

inductive TagEnd
  | closed (content rest : List Char)
  | cutOff (content : List Char)
  | faulty (f : Fault)

/-- The content of a tag up to its closing delimiter, given the content so far. After a brace at the
beginning, the next closing brace belongs to the content. -/
def tagRun (closing : List Char) (content : List Char) (braced : Bool) : List Char → TagEnd
  | [] => .faulty .unclosedTag
  | c :: cs =>
    if content.isEmpty && c == '{' then tagRun closing [c] true cs
    else if braced && c == '}' then tagRun closing (content ++ [c]) false cs
    else
      match closing with
      | [] => .faulty .unclosedTag
      | [k] => if c = k then .closed content cs else tagRun [k] (content ++ [c]) braced cs
      | k :: l :: more =>
        if c = k then
          match cs with
          | [] => .cutOff (content ++ [c])
          | d :: cs =>
            if d ≠ l then .faulty .malformedClosingTag
            else if more.isEmpty then .closed content cs
            else tagRun (k :: l :: more) (content ++ [c, d]) braced cs
        else tagRun (k :: l :: more) (content ++ [c]) braced cs

inductive Token
  | node (n : Node)
  | opened (path : List String) (inverted endsLine : Bool)

def afterLineBreak : List Char → Option (List Char)
  | [] => some []
  | '\n' :: cs => some cs
  | '\r' :: '\n' :: cs => some cs
  | _ => none

def withoutIndent (cs : List Char) : Option (List Char) :=
  match cs.reverse.dropWhile fun c ↦ Text.isBlank c && c != '\n' with
  | '\n' :: before => some ('\n' :: before).reverse
  | _ => none

def atLineStart : List Token → Option (List Token)
  | [] => some []
  | .opened path inverted true :: ts => some (.opened path inverted true :: ts)
  | .node (.text (c :: cs)) :: ts =>
    if (c :: cs).all fun c ↦ Text.isBlank c && c != '\n' then
      if ts.isEmpty then some [.node (.text [])] else none
    else (withoutIndent (c :: cs)).map fun line ↦ .node (.text line) :: ts
  | _ => none

/-- Takes the line of a tag away if there is nothing else on it, and tells whether there was not. -/
def takeLine (ts : List Token) (cs : List Char) : List Token × List Char × Bool :=
  match afterLineBreak cs, atLineStart ts with
  | some cs, some ts => (ts, cs, true)
  | _, _ => (ts, cs, false)

def nameIn (cs : List Char) : Except Fault (List Char) :=
  match Text.strip Text.isBlank cs with
  | [] => .error .emptyTag
  | cs => .ok cs

def pathOf (cs : List Char) : List String :=
  if cs = ['.'] then []
  else
    let names := Text.pieces '.' (.ofList cs)
    if names.getLast? = some "" then names.dropLast else names

def pathIn (cs : List Char) : Except Fault (List String) :=
  (nameIn cs).map pathOf

def close (path : List String) : List Token → List Node → Except Fault (List Token)
  | [], _ => .error .unopenedSection
  | .node n :: ts, children => close path ts (n :: children)
  | .opened name inverted _ :: ts, children =>
    if name = path then .ok (.node (.section path inverted children) :: ts)
    else .error .unclosedSection

def delimitersIn (cs : List Char) : Except Fault Delimiters := do
  let cs ← nameIn cs
  let closing := (cs.dropWhile (!Text.isBlank ·)).dropWhile Text.isBlank
  if closing.isEmpty then throw .noClosingDelimiter
  return ⟨cs.takeWhile (!Text.isBlank ·), closing⟩

structure Reading where
  delimiters : Delimiters := {}
  tokens : List Token := []
  rest : List Char

namespace Reading

def push (r : Reading) (t : Token) : Reading :=
  { r with tokens := t :: r.tokens }

def pushText (r : Reading) (cs : List Char) : Reading :=
  if cs.isEmpty then r else r.push (.node (.text cs))

def skipLine (r : Reading) : Reading × Bool :=
  let (tokens, rest, alone) := takeLine r.tokens r.rest
  ({ r with tokens, rest }, alone)

def addTag (r : Reading) : List Char → Except Fault Reading
  | [] => .error .emptyTag
  | '!' :: _ => .ok r.skipLine.1
  | '&' :: cs => do return r.push (.node (.value (← pathIn cs) false))
  | '{' :: cs =>
    if cs.getLast? = some '}' then do
      return r.push (.node (.value (← pathIn cs.dropLast) false))
    else .error .unbalancedUnescapeTag
  | '#' :: cs => do
    let (r, alone) := r.skipLine
    return r.push (.opened (← pathIn cs) false alone)
  | '^' :: cs => do
    let (r, alone) := r.skipLine
    return r.push (.opened (← pathIn cs) true alone)
  | '/' :: cs => do
    let r := r.skipLine.1
    return { r with tokens := ← close (← pathIn cs) r.tokens [] }
  | '>' :: cs => do
    let r := r.skipLine.1
    return r.push (.node (.inclusion (.ofList (← nameIn cs))))
  | '=' :: cs => do
    let r := r.skipLine.1
    if cs.length < 2 || cs.getLast? ≠ some '=' then throw .invalidDelimiters
    return { r with delimiters := ← delimitersIn cs.dropLast }
  | cs => do return r.push (.node (.value (← pathIn cs) true))

/-- Reads to the end. Each tag takes a character at least, so the length of the text is fuel enough.
-/
def run : Nat → Reading → Except Fault (List Token)
  | 0, r => .ok r.tokens
  | fuel + 1, r =>
    match textRun r.delimiters.opening r.delimiters.opening r.rest with
    | (text, none) => .ok (r.pushText text).tokens
    | (text, some cs) =>
      let r := r.pushText text
      match tagRun r.delimiters.closing [] false cs with
      | .faulty f => .error f
      | .cutOff content => .ok (r.pushText content).tokens
      | .closed content rest => do run fuel (← addTag { r with rest } content)

end Reading

def nodesOf : List Token → Except Fault (List Node)
  | [] => .ok []
  | .node n :: ts => (nodesOf ts).map (n :: ·)
  | .opened .. :: _ => .error .unclosedSection

def parse (s : String) : Except Fault (List Node) := do
  let tokens ← Reading.run (s.length + 1) { rest := s.toList }
  nodesOf tokens.reverse

end WebDispatch.Mustache
