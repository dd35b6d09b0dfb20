import WebDispatch.Exchange
import WebDispatch.Text.Base64

namespace WebDispatch

open Http

inductive Authentication
  /-- The credentials were accepted; the principal may still be unknown. -/
  | authenticated (principal : Option Principal)
  /-- The credentials were missing or rejected, and the challenge is written to the exchange. -/
  | refused
  deriving DecidableEq, Repr

abbrev Authenticator (σ : Type) := Run (Scene σ) Authentication

structure Identity where
  password : String
  principal : Principal
  deriving DecidableEq, Repr

structure BasicAuthenticator where
  realm : String
  identities : Table Identity := {}
  deriving Repr

namespace BasicAuthenticator

def withUser (b : BasicAuthenticator) (name password : String) (roles : List String) :
    BasicAuthenticator :=
  { b with identities := b.identities.insert name ⟨password, name, .ofList roles⟩ }

def credentials (header : String) : Option (String × String) := do
  let (scheme, encoded) ← Text.cut ' ' header
  guard (scheme.toList.map Char.toLower = "basic".toList)
  let bytes ← Text.Base64.decode (Text.strip Text.isBlank encoded.toList)
  let text ← Text.Utf8.decode? bytes
  Text.cut ':' text

def accepted (b : BasicAuthenticator) (x : Exchange) : Option Principal := do
  let value ← x.request.headers.get? .authorization
  let header ← value.text?
  let (user, password) ← credentials header
  let identity ← b.identities.get? user
  guard (identity.password = password)
  return identity.principal

/-- Asks the client for credentials and ends the exchange. A realm that is illegal in a header is
left out. -/
def challenge (b : BasicAuthenticator) (x : Exchange) : Exchange :=
  let text := "Basic realm=\"" ++ b.realm ++ "\""
  let x := match x.setHeader HeaderName.wwwAuthenticate.text text with
    | .ok y => y
    | .error _ => x
  { x with status := 401, ended := true }

def authenticate (b : BasicAuthenticator) (x : Exchange) : Authentication × Exchange :=
  match b.accepted x with
  | some p => (.authenticated (some p), x)
  | none => (.refused, b.challenge x)

def toAuthenticator {σ : Type} (b : BasicAuthenticator) : Authenticator σ :=
  Run.ofState fun s ↦
    ((b.authenticate s.exchange).1, { s with exchange := (b.authenticate s.exchange).2 })

end BasicAuthenticator

end WebDispatch
