import WebDispatch.Text.Blank
import WebDispatch.Text.Utf8

namespace WebDispatch.Http

def isTokenChar (c : Char) : Bool :=
  c.isAlphanum || "!#$%&'*+-.^_`|~".toList.contains c

def isToken (s : String) : Bool :=
  !s.isEmpty && s.toList.all isTokenChar

structure HeaderName where
  text : String
  deriving DecidableEq, Repr

namespace HeaderName

def maxLength : Nat := 65535

def parse? (s : String) : Option HeaderName :=
  if isToken s && s.length ≤ maxLength then some ⟨.ofList (s.toList.map Char.toLower)⟩ else none

def authorization : HeaderName := ⟨"authorization"⟩
def connection : HeaderName := ⟨"connection"⟩
def contentDisposition : HeaderName := ⟨"content-disposition"⟩
def contentType : HeaderName := ⟨"content-type"⟩
def cookie : HeaderName := ⟨"cookie"⟩
def location : HeaderName := ⟨"location"⟩
def setCookie : HeaderName := ⟨"set-cookie"⟩
def upgrade : HeaderName := ⟨"upgrade"⟩
def webSocketKey : HeaderName := ⟨"sec-websocket-key"⟩
def webSocketVersion : HeaderName := ⟨"sec-websocket-version"⟩
def wwwAuthenticate : HeaderName := ⟨"www-authenticate"⟩

end HeaderName

/-- A byte that a header value may hold: a tab, or any but the control characters. -/
def isValueByte (b : UInt8) : Bool :=
  b == 0x09 || (0x20 ≤ b && b != 0x7F)

def isVisibleByte (b : UInt8) : Bool :=
  b == 0x09 || (0x20 ≤ b && b < 0x7F)

structure HeaderValue where
  bytes : Bytes
  deriving DecidableEq, Repr

namespace HeaderValue

def ofBytes? (bs : Bytes) : Option HeaderValue :=
  if bs.all isValueByte then some ⟨bs⟩ else none

def parse? (s : String) : Option HeaderValue :=
  ofBytes? (Text.Utf8.encode s)

/-- The value as text, if it is visible ASCII throughout. -/
def text? (v : HeaderValue) : Option String :=
  if v.bytes.all isVisibleByte then some (.ofList (v.bytes.map fun b ↦ .ofNat b.toNat)) else none

end HeaderValue

structure Headers where
  entries : List (HeaderName × HeaderValue) := []
  deriving DecidableEq, Repr

namespace Headers

def empty : Headers := {}

def getAll (h : Headers) (name : HeaderName) : List HeaderValue :=
  (h.entries.filter fun e ↦ e.1 = name).map Prod.snd

def get? (h : Headers) (name : HeaderName) : Option HeaderValue :=
  (h.getAll name).head?

def append (h : Headers) (name : HeaderName) (value : HeaderValue) : Headers :=
  ⟨h.entries ++ [(name, value)]⟩

def erase (h : Headers) (name : HeaderName) : Headers :=
  ⟨h.entries.filter fun e ↦ e.1 ≠ name⟩

def insert (h : Headers) (name : HeaderName) (value : HeaderValue) : Headers :=
  (h.erase name).append name value

/-- An entry before all those with a greater name. -/
def insertEntry (e : HeaderName × HeaderValue) :
    List (HeaderName × HeaderValue) → List (HeaderName × HeaderValue)
  | [] => [e]
  | f :: fs => if e.1.text < f.1.text then e :: f :: fs else f :: insertEntry e fs

/-- The entries in the order of names, those of one name in the order in which they came. -/
def sorted (h : Headers) : List (HeaderName × HeaderValue) :=
  h.entries.foldl (fun es e ↦ insertEntry e es) []

def ofPairs? (pairs : List (String × Bytes)) : Option Headers :=
  pairs.foldlM (fun h p ↦ do
    let name ← HeaderName.parse? p.1
    let value ← HeaderValue.ofBytes? p.2
    return h.append name value) empty

/-- The first value of a name in any case, if it is text. -/
def text? (h : Headers) (name : String) : Option String := do
  let name ← HeaderName.parse? name
  let value ← h.get? name
  value.text?

theorem getAll_append (h : Headers) (name other : HeaderName) (value : HeaderValue) :
    (h.append name value).getAll other =
      h.getAll other ++ if name = other then [value] else [] := by
  by_cases hn : name = other <;> simp [append, getAll, hn]

theorem getAll_erase (h : Headers) (name other : HeaderName) :
    (h.erase name).getAll other = if name = other then [] else h.getAll other := by
  simp only [erase, getAll, List.filter_filter]
  by_cases hn : name = other
  · subst hn
    simp
  · simp only [hn, if_false]
    congr 1
    apply List.filter_congr
    intro e _
    by_cases he : e.1 = other
    · simp [he, Ne.symm hn]
    · simp [he]

theorem getAll_insert (h : Headers) (name other : HeaderName) (value : HeaderValue) :
    (h.insert name value).getAll other =
      if name = other then [value] else h.getAll other := by
  rw [insert, getAll_append, getAll_erase]
  by_cases hn : name = other <;> simp [hn]

end Headers

end WebDispatch.Http
