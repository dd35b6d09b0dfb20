import WebDispatch.Exchange
import WebDispatch.Text.Split

namespace WebDispatch

inductive RequestTest
  | path (value : String)
  | param (name value : String)
  | header (name value : String)
  | constant (b : Bool)
  deriving DecidableEq, Repr

namespace RequestTest

def holds (x : Exchange) : RequestTest → Bool
  | path value => x.path == value
  | param name value => x.param? name == some value
  | header name value => x.requestHeader name == some value
  | constant b => b

/-- The kind stands before the first equals sign, with a name behind its first colon. -/
def parse? (s : String) : Option RequestTest :=
  let (left, value) := (Text.cut '=' s).getD (s, "")
  let (kind, name) := (Text.cut ':' left).getD (left, "")
  match kind with
  | "path" => some (path value)
  | "param" => some (param name value)
  | "header" => some (header name value)
  | "true" => some (constant true)
  | "false" => some (constant false)
  | _ => none

end RequestTest

structure RequestCondition where
  test : RequestTest
  negated : Bool
  deriving DecidableEq, Repr

namespace RequestCondition

def parse? (s : String) : Option RequestCondition :=
  match s.toList with
  | '!' :: cs => (RequestTest.parse? (.ofList cs)).map fun test ↦ ⟨test, true⟩
  | _ => (RequestTest.parse? s).map fun test ↦ ⟨test, false⟩

def holds (c : RequestCondition) (x : Exchange) : Bool :=
  c.test.holds x != c.negated

end RequestCondition

end WebDispatch
