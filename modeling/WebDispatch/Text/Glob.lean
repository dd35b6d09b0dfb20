import WebDispatch.Text.Blank
import WebDispatch.Text.Utf8

namespace WebDispatch.Text.Glob

inductive Piece
  | byte (b : UInt8)
  | one
  | run
  | oneOf (isNegated : Bool) (ranges : List (UInt8 × UInt8))
  | leadingSteps
  | innerSteps
  | trailingSteps
  | choice (branches : List (List Piece))

/-! ### Reading patterns -/

/-- The characters of a class as ranges, the last one first, and the text behind the class, given
whether a hyphen waits for the end of the last range. The first character stands for itself, be it
a bracket or a hyphen, and so does a hyphen at the end. A range in the wrong order is none. -/
def charRanges :
    Bool → List (Char × Char) → List Char → Option (List (Char × Char) × List Char)
  | false, [], c :: cs => charRanges false [(c, c)] cs
  | false, rs, ']' :: cs => some (rs, cs)
  | false, rs, '-' :: cs => charRanges true rs cs
  | false, rs, c :: cs => charRanges false ((c, c) :: rs) cs
  | true, rs, ']' :: cs => some (('-', '-') :: rs, cs)
  | true, (a, _) :: rs, c :: cs =>
    if c < a then none else charRanges false ((a, c) :: rs) cs
  | true, [], _ :: _ => none
  | _, _, [] => none

def encode (c : Char) : Bytes :=
  Utf8.encode (.singleton c)

/-- The bytes of a range: from the last byte of its first character to the first byte of its last
one, and the other bytes of both. -/
def byteRanges (r : Char × Char) : List (UInt8 × UInt8) :=
  let single (b : UInt8) := (b, b)
  if r.1 = r.2 then (encode r.1).map single
  else
    ((encode r.1).getLastD 0, (encode r.2).headD 0) ::
      ((encode r.1).dropLast ++ (encode r.2).tail).map single

def charClass (cs : List Char) : Option (Piece × List Char) :=
  let isNegated := cs.head? == some '!' || cs.head? == some '^'
  (charRanges false [] (if isNegated then cs.tail else cs)).map fun p ↦
    (.oneOf isNegated (p.1.flatMap byteRanges), p.2)

def pushChar (c : Char) (pieces : List Piece) : List Piece :=
  (encode c).reverse.map .byte ++ pieces

def pushSteps (steps : Piece) : List Piece → List Piece
  | .leadingSteps :: ps => .leadingSteps :: ps
  | .trailingSteps :: ps => .trailingSteps :: ps
  | _ :: ps => steps :: ps
  | [] => [steps]

def Piece.isVoid : Piece → Bool
  | .choice [] => true
  | _ => false

def choiceOf (branches : List (List Piece)) : Piece :=
  .choice (branches.filter fun b ↦ !b.all Piece.isVoid)

structure OpenBrace where
  branches : List (List Piece)
  before : List Piece

/-- The pieces of a pattern, given the open braces, the innermost first, the pieces inside that in
reverse, and the character before. -/
def pieces : Nat → List OpenBrace → List Piece → Option Char → List Char → Option (List Piece)
  | _, [], ps, _, [] => some ps.reverse
  | _, _ :: _, _, _, [] => none
  | 0, _, _, _, _ => none
  | fuel + 1, os, ps, last, c :: cs =>
    let isInBraces := !os.isEmpty
    match c, os, cs with
    | '?', _, _ => pieces fuel os (.one :: ps) (some c) cs
    | '[', _, _ => do
      let (p, cs) ← charClass cs
      pieces fuel os (p :: ps) (some ']') cs
    | '{', _, _ => pieces fuel (⟨[], ps⟩ :: os) [] (some c) cs
    | '}', o :: os, _ =>
      let branches := (ps.reverse :: o.branches).reverse
      pieces fuel os (choiceOf branches :: o.before) (some c) cs
    | '}', [], _ => none
    | ',', o :: os, _ =>
      pieces fuel ({ o with branches := ps.reverse :: o.branches } :: os) [] (some c) cs
    | '\\', _, d :: cs => pieces fuel os (pushChar d ps) (some d) cs
    | '\\', _, [] => none
    | '*', _, '*' :: cs =>
      let isEnd := cs.isEmpty || (isInBraces && (cs.head? == some ',' || cs.head? == some '}'))
      if ps.isEmpty && (cs.isEmpty || cs.head? == some '/') then
        pieces fuel os [.leadingSteps] (some '/') cs.tail
      else if ps.isEmpty || last != some '/' then pieces fuel os (.run :: ps) (some '*') cs
      else if isEnd then pieces fuel os (pushSteps .trailingSteps ps) (some '*') cs
      else if cs.head? == some '/' then
        pieces fuel os (pushSteps .innerSteps ps) (some '/') cs.tail
      else pieces fuel os (.run :: ps) (some '*') cs
    | '*', _, _ => pieces fuel os (.run :: ps) (some c) cs
    | _, _, _ => pieces fuel os (pushChar c ps) (some c) cs

/-! ### Matching -/

def afterSlashes : Bytes → List Bytes
  | [] => []
  | b :: bs => if b == 0x2F then bs :: afterSlashes bs else afterSlashes bs

def afterRun (isFit : UInt8 → Bool) : Bytes → List Bytes
  | [] => [[]]
  | b :: bs => (b :: bs) :: if isFit b then afterRun isFit bs else []

def afterByte (isFit : UInt8 → Bool) : Bytes → List Bytes
  | b :: bs => if isFit b then [bs] else []
  | [] => []

def isWithin (ranges : List (UInt8 × UInt8)) (b : UInt8) : Bool :=
  ranges.any fun r ↦ r.1 ≤ b && b ≤ r.2

mutual

def rests : Piece → Bytes → List Bytes
  | .byte b, s => afterByte (· == b) s
  | .one, s => afterByte (· != 0x2F) s
  | .run, s => afterRun (· != 0x2F) s
  | .oneOf isNegated ranges, s => afterByte (isWithin ranges · != isNegated) s
  | .leadingSteps, s => s :: afterSlashes s
  | .innerSteps, s => (afterByte (· == 0x2F) s).flatMap fun s ↦ s :: afterSlashes s
  | .trailingSteps, s => (afterByte (· == 0x2F) s).flatMap (afterRun fun _ ↦ true)
  | .choice [], s => [s]
  | .choice (b :: bs), s => restsOfAll b [s] ++ restsOfAny bs s

def restsOfAll : List Piece → List Bytes → List Bytes
  | [], ss => ss
  | p :: ps, ss => restsOfAll ps (ss.flatMap fun s ↦ rests p s).eraseDups

def restsOfAny : List (List Piece) → Bytes → List Bytes
  | [], _ => []
  | b :: bs, s => restsOfAll b [s] ++ restsOfAny bs s

end

/-- Whether a whole text fits pieces. Two stars alone fit everything. -/
def isMatch (ps : List Piece) (s : Bytes) : Bool :=
  match ps with
  | [.leadingSteps] => true
  | ps => (restsOfAll ps [s]).any List.isEmpty

/-! ### Patterns at any depth -/

def trimmed (pattern : List Char) : List Char :=
  if "\\ ".toList.isSuffixOf pattern then pattern
  else (pattern.reverse.dropWhile isBlank).reverse

/-- The pattern of whole paths that a pattern stands for. A star alone stays where it is; two stars
at the end do not stand for no step. -/
def whole (pattern : List Char) : List Char :=
  let p := trimmed pattern
  if pattern = ['*'] then pattern
  else if p = "**".toList then p
  else if !p.contains '/' then "**/".toList ++ p
  else if "/**".toList.isSuffixOf p then p ++ "/*".toList
  else p

/-- The test of a path by a pattern, if that is a pattern. One that begins like a comment or an
exception fits no path, nor does one that ends with a slash. -/
def ofPattern? (pattern : List Char) : Option (String → Bool) :=
  let isBarred := pattern.head? == some '#' || pattern.head? == some '!' ||
    (trimmed pattern).getLast? == some '/'
  (pieces (pattern.length + 6) [] [] none (whole pattern)).map fun ps path ↦
    !isBarred && isMatch ps (Utf8.encode path)

end WebDispatch.Text.Glob
