import WebDispatch.Text.Blank
import WebDispatch.Text.Split

namespace WebDispatch.Http.Cookie

def isQuote (c : Char) : Bool :=
  c == '"'

def valueOf (name : List Char) (piece : List Char) : Option (List Char) :=
  match Text.cutFirst '=' (Text.strip Text.isBlank piece) with
  | some (key, value) => if key = name then some (Text.strip isQuote value) else none
  | none => none

def value? (header name : String) : Option String :=
  ((header.toList.splitOn ';').findSome? (valueOf name.toList)).map .ofList

/-- The text that announces a cookie for all paths, kept from scripts. -/
def announcement (name value : String) : String :=
  name ++ "=" ++ value ++ "; Path=/; HttpOnly"

end WebDispatch.Http.Cookie
