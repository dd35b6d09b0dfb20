namespace WebDispatch.Http

structure Uri where
  scheme : Option String
  authority : Option String
  /-- As it was sent; the empty path of an absolute form reads as a slash. -/
  path : String
  query : Option String
  deriving DecidableEq, Repr

namespace Uri

def maxLength : Nat := 65534

def isPathChar (c : Char) : Bool :=
  let n := c.toNat
  n == 0x21 || n == 0x22 || (0x24 ≤ n && n ≤ 0x3B) || n == 0x3D || (0x40 ≤ n && n ≤ 0x5F) ||
    (0x61 ≤ n && n ≤ 0x7E) || 0x80 ≤ n

def isQueryChar (c : Char) : Bool :=
  let n := c.toNat
  n == 0x21 || (0x24 ≤ n && n ≤ 0x3B) || n == 0x3D || (0x3F ≤ n && n ≠ 0x7F)

def pathAndQuery (cs : List Char) : Option (String × Option String) := do
  let cs := cs.takeWhile (· ≠ '#')
  let path := cs.takeWhile (· ≠ '?')
  guard (path.all isPathChar)
  let query := cs.dropWhile (· ≠ '?')
  guard ((query.drop 1).all isQueryChar)
  return (if path.isEmpty then "/" else .ofList path,
    if query.isEmpty then none else some (.ofList (query.drop 1)))

def isSchemeChar (c : Char) : Bool :=
  c.isAlphanum || c == '+' || c == '-' || c == '.'

def maxScheme : Nat := 64

def schemePart (cs : List Char) : Option (List Char × List Char) :=
  match cs.dropWhile isSchemeChar with
  | ':' :: '/' :: '/' :: rest =>
    let scheme := cs.takeWhile isSchemeChar
    let lower := scheme.map Char.toLower
    some (if lower = "http".toList ∨ lower = "https".toList then lower else scheme, rest)
  | _ => none

/-- What the characters of an authority have shown so far. -/
structure AuthorityScan where
  colons : Nat := 0
  opened : Bool := false
  closed : Bool := false
  percent : Bool := false
  afterAt : Bool := false

def isAuthorityChar (c : Char) : Bool :=
  c.isAlphanum || "!$&'()*+,-.;=_~".toList.contains c

/-- Checks a character: at most eight colons in brackets and one behind them, brackets at most once,
and a percent sign only before an at sign or in brackets. -/
def AuthorityScan.step (s : AuthorityScan) (c : Char) : Option AuthorityScan :=
  let s := { s with afterAt := c == '@' }
  if c = ':' then if 8 ≤ s.colons then none else some { s with colons := s.colons + 1 }
  else if c = '[' then if s.percent || s.opened then none else some { s with opened := true }
  else if c = ']' then
    if !s.opened || s.closed then none
    else some { s with closed := true, colons := 0, percent := false }
  else if c = '@' then some { s with colons := 0, percent := false }
  else if c = '%' then some { s with percent := true }
  else if isAuthorityChar c then some s
  else none

def isAuthority (cs : List Char) : Bool :=
  match cs.foldlM AuthorityScan.step {} with
  | some s => s.opened == s.closed && s.colons ≤ 1 && !s.afterAt && !s.percent
  | none => false

def endsAuthority (c : Char) : Bool :=
  c == '/' || c == '?' || c == '#'

def parse? (s : String) : Option Uri := do
  guard (!s.isEmpty && s.utf8ByteSize ≤ maxLength)
  match s.toList with
  | ['*'] => return ⟨none, none, "*", none⟩
  | '/' :: cs =>
    let (path, query) ← pathAndQuery ('/' :: cs)
    return ⟨none, none, path, query⟩
  | cs =>
    match schemePart cs with
    | some (scheme, rest) =>
      guard (scheme.length ≤ maxScheme)
      let authority := rest.takeWhile (!endsAuthority ·)
      guard (!authority.isEmpty && isAuthority authority)
      let (path, query) ← pathAndQuery (rest.dropWhile (!endsAuthority ·))
      return ⟨some (.ofList scheme), some (.ofList authority), path, query⟩
    | none =>
      guard (isAuthority cs && cs.all (!endsAuthority ·))
      return ⟨none, some s, "", none⟩

def toText (u : Uri) : String :=
  (match u.scheme with | some s => s ++ "://" | none => "") ++ u.authority.getD "" ++ u.path ++
    (match u.query with | some q => "?" ++ q | none => "")

end Uri

end WebDispatch.Http
