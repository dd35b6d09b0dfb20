import WebDispatch.Answer

namespace WebDispatch

inductive TemplateData
  | null
  | bool (b : Bool)
  | number (n : Json.Number)
  | string (s : String)
  | list (items : List TemplateData)
  | map (fields : List (String × TemplateData))

namespace TemplateData

def get? (name : String) : TemplateData → Option TemplateData
  | map fields => fields.lookup name
  | _ => none

mutual

def ofJson : Json → TemplateData
  | .null => null
  | .bool b => bool b
  | .number n => number n
  | .string s => string s
  | .array items => list (ofItems items)
  | .object fields => map (Json.sortFields (ofFields fields))

def ofItems : List Json → List TemplateData
  | [] => []
  | v :: vs => ofJson v :: ofItems vs

def ofFields : List (String × Json) → List (String × TemplateData)
  | [] => []
  | (k, v) :: fs => (k, ofJson v) :: ofFields fs

end

mutual

def toJson : TemplateData → Json
  | null => .null
  | bool b => .bool b
  | number n => .number n
  | string s => .string s
  | list items => .array (toItems items)
  | map fields => Json.ofFields (toFields fields)

def toItems : List TemplateData → List Json
  | [] => []
  | d :: ds => toJson d :: toItems ds

def toFields : List (String × TemplateData) → List (String × Json)
  | [] => []
  | (k, d) :: fs => (k, toJson d) :: toFields fs

end

def ofAnswer : Answer → TemplateData
  | .empty => null
  | .text s => string s
  | .structured v => ofJson v

end TemplateData

end WebDispatch
