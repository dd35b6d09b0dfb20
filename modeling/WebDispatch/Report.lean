import WebDispatch.Answer
import WebDispatch.Channel.Basic
import WebDispatch.Exchange
import WebDispatch.Injection.Value
import WebDispatch.Options.Config
import WebDispatch.Settings
import WebDispatch.Template.Data
import WebDispatch.Text.Hex

namespace WebDispatch

open Http

namespace Json

def ofText? (s : Option String) : Json :=
  (s.map .string).getD .null

def ofTexts (texts : List String) : Json :=
  .array (texts.map .string)

def ofPairs (pairs : List (String × String)) : Json :=
  .array (pairs.map fun p ↦ ofTexts [p.1, p.2])

def tagged (tag : String) (v : Json) : Json :=
  .object [(tag, v)]

def ofHex (bs : Bytes) : Json :=
  .string (Text.Hex.encode bs)

def ofBytes (bs : Bytes) : Json :=
  match Text.Utf8.decode? bs with
  | some s => .string s
  | none => tagged "hex" (ofHex bs)

end Json

namespace Form

def Value.report : Value → Json
  | .text s => .string s
  | .file name contentType data =>
    .ofFields [("file", .ofText? name), ("type", .ofText? contentType), ("data", .ofBytes data)]

def report (f : Form) : Json :=
  .array (f.fields.map fun x ↦ .array [.string x.name, x.value.report])

end Form

/-- A value under the name of its kind; of a connection nothing but its kind. -/
def Injected.report {σ : Type} : Injected σ → Json
  | none => .null
  | some (.text s) => .tagged "string" (.string s)
  | some (.json v) => .tagged "json" v
  | some (.integer n) => .tagged "int" (.int n)
  | some (.bytes bs) => .tagged "bytes" (.ofHex bs)
  | some (.form f) => .tagged "form" f.report
  | some (.connection _) => .tagged "factory" (.bool true)
  | some (.database _) => .tagged "sql" (.bool true)

def Principal.report (p : Principal) : Json :=
  .ofFields [("name", .string p.name), ("roles", .ofTexts p.roles.names)]

def Http.Headers.report (h : Headers) : Json :=
  .array (h.sorted.map fun e ↦ .array [.string e.1.text, .ofBytes e.2.bytes])

def Entity.report (e : Entity) : Json :=
  .ofFields [("type", .ofText? e.contentType), ("data", .ofBytes e.data),
    ("empty", .bool e.isEmpty)]

/-- The exchange, header fields and session apart. -/
def Exchange.report (x : Exchange) : Json :=
  .ofFields [("method", .string x.request.method.name), ("path", .string x.path),
    ("uri", .string x.request.uri.toText), ("entity", x.entity.report), ("status", .nat x.status),
    ("ended", .bool x.ended), ("principal", (x.principal.map Principal.report).getD .null)]

def Settings.report (s : Settings) : Json :=
  .ofFields [("worker_threads", .nat s.workerThreads), ("max_body_bytes", .nat s.maxBodyBytes),
    ("session_cookie", .string s.sessionCookie),
    ("session_timeout_secs", .nat (s.sessionTimeout / 1000)),
    ("template_dir", .string s.templateDir)]

def HandlerConfig.report {σ : Type} (c : HandlerConfig σ) : Json :=
  .ofFields [("template", .ofText? c.template), ("template_type", .string c.templateType),
    ("headers", .ofPairs c.headers), ("content_type", .ofText? c.contentType?),
    ("content_type_explicit", .bool c.contentTypeExplicit),
    ("predicate", .ofText? (c.predicate.map PredicateSource.describe)),
    ("roles_allowed", .ofTexts c.rolesAllowed), ("transactional", .bool c.transactional)]

def Answer.report : Answer → Json
  | .empty => .tagged "empty" (.bool true)
  | .text s => .tagged "text" (.string s)
  | .structured v => .tagged "structured" v

namespace TemplateData

mutual

def report : TemplateData → Json
  | null => .tagged "null" (.bool true)
  | bool b => .tagged "bool" (.bool b)
  | number n => .tagged "number" (.number n)
  | string s => .tagged "string" (.string s)
  | list items => .tagged "list" (.array (reportItems items))
  | map fields => .tagged "map" (.array (reportFields fields))

def reportItems : List TemplateData → List Json
  | [] => []
  | d :: ds => d.report :: reportItems ds

def reportFields : List (String × TemplateData) → List Json
  | [] => []
  | (k, d) :: fs => .array [.string k, d.report] :: reportFields fs

end

end TemplateData

def Frame.report : Frame → Json
  | .text s => .tagged "text" (.string s)
  | .binary bs => .tagged "binary" (.ofHex bs)
  | .close => .string "close"

def CloseReason.report (r : CloseReason) : Json :=
  .array [.nat r.code, .string r.reason]

end WebDispatch
