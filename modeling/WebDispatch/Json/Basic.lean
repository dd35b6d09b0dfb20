import WebDispatch.Json.Double

namespace WebDispatch

namespace Json

inductive Number
  /-- At least -2^63 and below 2^64. -/
  | int (n : Int)
  | float (x : Double)
  deriving DecidableEq, Repr

def Number.same : Number → Number → Bool
  | .int m, .int n => m == n
  | .float x, .float y => x.same y
  | _, _ => false

def Number.isZero : Number → Bool
  | .int n => n == 0
  | .float x => x.isZero

def Number.toJsonText : Number → List Char
  | .int n => (toString n).toList
  | .float x => x.toJsonText

def Number.toPlainText : Number → List Char
  | .int n => (toString n).toList
  | .float x => x.toPlainText

end Json

/-- The fields of an object stand in the order of their names, each name once. -/
inductive Json
  | null
  | bool (b : Bool)
  | number (n : Json.Number)
  | string (s : String)
  | array (items : List Json)
  | object (fields : List (String × Json))
  deriving Repr, Inhabited

namespace Json

def int (n : Int) : Json :=
  .number (.int n)

def nat (n : Nat) : Json :=
  .number (.int n)

mutual

/-- Equality of values, under which the two floating-point zeros are one. -/
def same : Json → Json → Bool
  | .null, .null => true
  | .bool a, .bool b => a == b
  | .number m, .number n => m.same n
  | .string s, .string t => s == t
  | .array xs, .array ys => sameItems xs ys
  | .object xs, .object ys => sameFields xs ys
  | _, _ => false

def sameItems : List Json → List Json → Bool
  | [], [] => true
  | x :: xs, y :: ys => same x y && sameItems xs ys
  | _, _ => false

def sameFields : List (String × Json) → List (String × Json) → Bool
  | [], [] => true
  | (k, x) :: xs, (l, y) :: ys => k == l && same x y && sameFields xs ys
  | _, _ => false

end

instance : BEq Json := ⟨same⟩

/-- Fields with one more, at its place in the order of names; a field of that name is replaced. -/
def insertField {α : Type} (name : String) (value : α) : List (String × α) → List (String × α)
  | [] => [(name, value)]
  | (k, v) :: fields =>
    if name < k then (name, value) :: (k, v) :: fields
    else if name = k then (name, value) :: fields
    else (k, v) :: insertField name value fields

/-- Pairs as the fields of an object: in the order of names, the last of each name. -/
def sortFields {α : Type} (fields : List (String × α)) : List (String × α) :=
  fields.foldl (fun fs f ↦ insertField f.1 f.2 fs) []

def ofFields (fields : List (String × Json)) : Json :=
  .object (sortFields fields)

def field? (name : String) : Json → Option Json
  | .object fields => fields.lookup name
  | _ => none

def get (v : Json) (name : String) : Json :=
  (v.field? name).getD .null

def items : Json → List Json
  | .array vs => vs
  | _ => []

def item (v : Json) (i : Nat) : Json :=
  v.items[i]?.getD .null

def fields : Json → List (String × Json)
  | .object fs => fs
  | _ => []

def isNull : Json → Bool
  | .null => true
  | _ => false

def isTrue : Json → Bool
  | .bool b => b
  | _ => false

def toInt : Json → Int
  | .number (.int n) => n
  | _ => 0

def toNat (v : Json) : Nat :=
  v.toInt.toNat

def string? : Json → Option String
  | .string s => some s
  | _ => none

end Json

end WebDispatch
