import WebDispatch.Entity
import WebDispatch.Json.Printer
import WebDispatch.Run
import WebDispatch.Text.Quoted

namespace WebDispatch

abbrev Row := List (String × Json)

structure Connection (σ : Type) where
  execute : String → List Json → StateM σ (Except Failure Nat)
  query : String → List Json → StateM σ (Except Failure (List Row))

inductive Item (σ : Type)
  | text (s : String)
  | json (v : Json)
  | integer (n : Int)
  | bytes (bs : Bytes)
  | form (f : Form)
  | connection (c : Connection σ)
  | database (c : Connection σ)

abbrev Injected (σ : Type) := Option (Item σ)

namespace Injected

variable {σ : Type}

def text? : Injected σ → Option String
  | some (.text s) => some s
  | _ => none

def json? : Injected σ → Option Json
  | some (.json v) => some v
  | _ => none

def integer? : Injected σ → Option Int
  | some (.integer n) => some n
  | _ => none

def form? : Injected σ → Option Form
  | some (.form f) => some f
  | _ => none

def database? : Injected σ → Option (Connection σ)
  | some (.database c) => some c
  | _ => none

def describe : Injected σ → String
  | none => "Injected(null)"
  | some (.text s) => "Injected(" ++ Text.Quoted.encode s ++ ")"
  | some (.json v) => "Injected(" ++ v.toText ++ ")"
  | some _ => "Injected(..)"

end Injected

/-! ### Query templates -/

namespace Connection

variable {σ : Type}

def affect (c : Connection σ) (sql : String) (params : List Json) :
    StateM σ (Except Failure Nat) :=
  c.execute sql params

def select (c : Connection σ) (sql : String) (params : List Json) :
    StateM σ (Except Failure (List Row)) :=
  c.query sql params

def selectOne (c : Connection σ) (sql : String) (params : List Json) :
    StateM σ (Except Failure (Option Row)) := do
  match ← c.select sql params with
  | .error f => return .error f
  | .ok [] => return .ok none
  | .ok [row] => return .ok (some row)
  | .ok _ => return .error (.framework .multipleResults)

end Connection

/-! ### Post-processors -/

/-- Adapts an injected value; it is never asked about null. -/
abbrev PostProcessor (σ : Type) := Item σ → StateM σ (Injected σ)

namespace PostProcessor

variable {σ : Type}

/-- Runs a value through post-processors in order, up to the first at which it is null. -/
def runAll : List (PostProcessor σ) → Injected σ → StateM σ (Injected σ)
  | _, none => pure none
  | [], value => pure value
  | p :: ps, some item => do runAll ps (← p item)

def queryTemplate : PostProcessor σ
  | .connection c => pure (some (.database c))
  | item => pure (some item)

def onText (f : String → Injected σ) : PostProcessor σ
  | .text s => pure (f s)
  | item => pure (some item)

end PostProcessor

end WebDispatch
