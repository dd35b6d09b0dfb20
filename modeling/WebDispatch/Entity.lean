import WebDispatch.Http.Message
import WebDispatch.Http.Multipart
import WebDispatch.Json.Parser
import WebDispatch.Text.UrlEncoded

namespace WebDispatch

namespace Form

inductive Value
  | text (s : String)
  | file (name contentType : Option String) (data : Bytes)
  deriving DecidableEq, Repr

structure Field where
  name : String
  value : Value
  deriving DecidableEq, Repr

end Form

structure Form where
  fields : List Form.Field := []
  deriving DecidableEq, Repr

namespace Form

def get? (f : Form) (name : String) : Option Field :=
  f.fields.find? fun x ↦ x.name = name

def getAll (f : Form) (name : String) : List Field :=
  f.fields.filter fun x ↦ x.name = name

def Value.text? : Value → Option String
  | .text s => some s
  | .file .. => none

def text? (f : Form) (name : String) : Option String :=
  (f.getAll name).findSome? fun x ↦ x.value.text?

def isEmpty (f : Form) : Bool :=
  f.fields.isEmpty

def ofUrlEncoded (bs : Bytes) : Form :=
  ⟨(Text.UrlEncoded.parse bs).map fun p ↦ ⟨p.1, .text p.2⟩⟩

def Field.ofPart (p : Http.Multipart.Part) : Field where
  name := p.name.getD ""
  value :=
    match p.fileName with
    | some name => .file name p.contentType p.data
    | none => .text (Text.Utf8.decodeLossy p.data)

end Form

structure Entity where
  data : Bytes := []
  contentType : Option String := none
  form : Option Form := none
  /-- What a decoder of JSON says of the data, where they are none; the words are its own. -/
  jsonFault : String := "malformed text"
  deriving DecidableEq, Repr

namespace Entity

def ofForm (form : Form) : Entity :=
  { contentType := some "multipart/form-data", form := some form }

def isEmpty (e : Entity) : Bool :=
  e.data.isEmpty && e.form.isNone

def asString (e : Entity) : Except Error String :=
  match Text.Utf8.decode e.data with
  | .ok s => .ok s
  | .error f => .error (.malformedEntity ("body is not UTF-8: " ++ f.message))

def isJsonBlank (b : UInt8) : Bool :=
  b == 0x20 || b == 0x09 || b == 0x0A || b == 0x0C || b == 0x0D

/-- The body as JSON; one without anything but blanks is null. -/
def asJson (e : Entity) : Except Error Json :=
  if e.data.all isJsonBlank then .ok .null
  else
    match (Text.Utf8.decode? e.data).bind Json.Parser.parse? with
    | some v => .ok v
    | none => .error (.malformedEntity ("body is not JSON: " ++ e.jsonFault))

def asForm (e : Entity) : Form :=
  e.form.getD (.ofUrlEncoded e.data)

/-! ### Reading a body -/

/-- The bytes of a body behind those buffered so far, unless they come to more than the limit. -/
def buffer (limit : Nat) (buffered : Bytes) : List Http.Chunk → Except Error Bytes
  | [] => .ok buffered
  | .failure message :: _ => .error (.malformedEntity message)
  | .data bytes :: chunks =>
    if limit < buffered.length + bytes.length then .error (.payloadTooLarge limit)
    else buffer limit (buffered ++ bytes) chunks

def isMultipart (contentType : String) : Bool :=
  "multipart/form-data".toList.isPrefixOf
    ((Text.trimStart contentType).toList.map Char.toLower)

def ofMultipart (contentType : String) (data : Bytes) (fault : String := "malformed form") :
    Except Error Entity :=
  match (Http.Multipart.boundary? contentType).bind (Http.Multipart.parse? · data) with
  | none => .error (.malformedEntity fault)
  | some parts => .ok (ofForm ⟨parts.map .ofPart⟩)

def read (limit : Nat) (contentType : Option String) (body : List Http.Chunk) :
    Except Error Entity := do
  let data ← buffer limit [] body
  match contentType.filter isMultipart with
  | some contentType => ofMultipart contentType data
  | none => return { data, contentType }

end Entity

end WebDispatch
