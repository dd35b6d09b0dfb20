import WebDispatch.Error
import WebDispatch.Json.Printer

namespace WebDispatch

inductive Answer
  | empty
  | text (s : String)
  /-- Rendered through the template of the route, or serialized. -/
  | structured (v : Json)

namespace Answer

def isEmpty : Answer → Bool
  | empty => true
  | _ => false

/-- Null is no answer, and a JSON string is its text. -/
def ofJson : Json → Answer
  | .null => empty
  | .string s => text s
  | v => structured v

end Answer

structure Serializer where
  serialize : Json → Except Error String
  contentType : String := "application/json"

namespace Serializer

def json : Serializer where
  serialize v := .ok v.toText

end Serializer

end WebDispatch
