import WebDispatch.Http.Header
import WebDispatch.Text.Split

namespace WebDispatch.Http

structure MediaType where
  type : String
  subtype : String
  params : List (String × String)
  text : String
  deriving DecidableEq, Repr

namespace MediaType

def lower (cs : List Char) : List Char :=
  cs.map Char.toLower

def isQuotedChar (c : Char) : Bool :=
  31 < c.toNat && c.toNat != 127

/-- A parameter's name, its value, its normal form and what follows, up to and with a semicolon. -/
structure Param where
  name : List Char
  value : List Char
  text : List Char
  rest : List Char

def quotedValue (cs : List Char) : Option (List Char × List Char) :=
  match cs with
  | [] => none
  | c :: cs =>
    if isQuotedChar c then (Text.cutFirst '"' cs).map fun p ↦ (c :: p.1, p.2) else none

def param (cs : List Char) : Option Param := do
  let name := cs.takeWhile isTokenChar
  guard !name.isEmpty
  match cs.dropWhile isTokenChar with
  | '=' :: '"' :: cs =>
    let (value, cs) ← quotedValue cs
    guard (value.all isQuotedChar)
    let blanks := cs.takeWhile (· = ' ')
    let name := lower name
    let value := if name = "charset".toList then lower value else value
    let text := name ++ ['=', '"'] ++ value ++ ['"'] ++ blanks
    match cs.dropWhile (· = ' ') with
    | [] => return ⟨name, value, text, []⟩
    | ';' :: cs => return ⟨name, value, text ++ [';'], cs⟩
    | _ => none
  | '=' :: cs =>
    let value := cs.takeWhile isTokenChar
    let name := lower name
    let value := if name = "charset".toList then lower value else value
    let text := name ++ ['='] ++ value
    match cs.dropWhile isTokenChar with
    | [] => return ⟨name, value, text, []⟩
    | ';' :: cs =>
      guard !value.isEmpty
      return ⟨name, value, text ++ [';'], cs⟩
    | _ => none
  | _ => none

/-- The parameters behind a semicolon, with their normal form. Each takes a character, so the length
of the text is fuel enough. -/
def paramList : Nat → List Char → Option (List (String × String) × List Char)
  | 0, _ => none
  | fuel + 1, cs =>
    let blanks := cs.takeWhile (· = ' ')
    match cs.dropWhile (· = ' ') with
    | [] => some ([], blanks)
    | cs => do
      let p ← param cs
      let (ps, text) ← paramList fuel p.rest
      return ((.ofList p.name, .ofList p.value) :: ps, blanks ++ p.text ++ text)

def withoutSuffix : List Char → List Char
  | [] => []
  | c :: cs =>
    match cs.reverse.dropWhile (· ≠ '+') with
    | [] => c :: cs
    | _ :: before => c :: before.reverse

def parse? (s : String) : Option MediaType := do
  let cs := s.toList
  let type := lower (cs.takeWhile isTokenChar)
  guard !type.isEmpty
  match cs.dropWhile isTokenChar with
  | '/' :: cs =>
    let subtype := lower (cs.takeWhile isTokenChar)
    let essence := type ++ ['/'] ++ subtype
    let subtype := withoutSuffix subtype
    match cs.dropWhile isTokenChar with
    | [] => return ⟨.ofList type, .ofList subtype, [], .ofList essence⟩
    | ';' :: cs =>
      guard !subtype.isEmpty
      let (params, text) ← paramList (cs.length + 1) cs
      let text := if params.isEmpty then essence else essence ++ [';'] ++ text
      return ⟨.ofList type, .ofList subtype, params, .ofList text⟩
    | _ => none
  | _ => none

def param? (m : MediaType) (name : String) : Option String :=
  m.params.lookup name

end MediaType

end WebDispatch.Http
