namespace WebDispatch

inductive Error
  | unknownOption (name : String)
  | invalidOption (name message : String)
  | invalidPredicate (expression message : String)
  | invalidPath (path message : String)
  | missingCollaborator (what requiredBy : String)
  | template (name message : String)
  | malformedEntity (message : String)
  | payloadTooLarge (limit : Nat)
  | notFound (method path : String)
  | invalidHeader (name message : String)
  | multipleResults
  | transaction (message : String)
  | channelClosed
  | channelFull (capacity : Nat)
  | worker (message : String)
  | settings (name message : String)
  | internal (message : String)
  deriving DecidableEq, Repr

namespace Error

def message : Error → String
  | unknownOption name => s!"Unknown handler option: {name}"
  | invalidOption name message => s!"Invalid value for option '{name}': {message}"
  | invalidPredicate expression message => s!"Invalid predicate '{expression}': {message}"
  | invalidPath path message => s!"Invalid route path '{path}': {message}"
  | missingCollaborator what requiredBy => s!"No {what} registered, required by {requiredBy}"
  | template name message => s!"Template '{name}' could not be loaded: {message}"
  | malformedEntity message => s!"Malformed request entity: {message}"
  | payloadTooLarge limit => s!"Request entity exceeds {limit} bytes"
  | notFound method path => s!"No route for {method} {path}"
  | invalidHeader name message => s!"Invalid header '{name}': {message}"
  | multipleResults => "More than one result returned"
  | transaction message => s!"Transaction failed: {message}"
  | channelClosed => "Channel closed"
  | channelFull capacity => s!"Channel outbound queue full ({capacity} frames)"
  | worker message => s!"Worker task failed: {message}"
  | settings name message => s!"Invalid setting '{name}': {message}"
  | internal message => s!"Internal error: {message}"

def kind : Error → String
  | unknownOption _ => "UnknownOption"
  | invalidOption .. => "InvalidOption"
  | invalidPredicate .. => "InvalidPredicate"
  | invalidPath .. => "InvalidPath"
  | missingCollaborator .. => "MissingCollaborator"
  | template .. => "Template"
  | malformedEntity _ => "MalformedEntity"
  | payloadTooLarge _ => "PayloadTooLarge"
  | notFound .. => "NotFound"
  | invalidHeader .. => "InvalidHeader"
  | multipleResults => "MultipleResults"
  | transaction _ => "Transaction"
  | channelClosed => "ChannelClosed"
  | channelFull _ => "ChannelFull"
  | worker _ => "Worker"
  | settings .. => "Settings"
  | internal _ => "Internal"

def ofKind (kind first second : String) (n : Nat) : Option Error :=
  [unknownOption first, invalidOption first second, invalidPredicate first second,
    invalidPath first second, missingCollaborator first second, template first second,
    malformedEntity first, payloadTooLarge n, notFound first second, invalidHeader first second,
    multipleResults, transaction first, channelClosed, channelFull n, worker first,
    settings first second, internal first].find? fun e ↦ e.kind = kind

/-- The client is to blame for a body that is malformed or too large and for an unknown path, the
server for all else. -/
def status : Error → Nat
  | malformedEntity _ => 400
  | payloadTooLarge _ => 413
  | notFound _ _ => 404
  | _ => 500

end Error

/-- An error that ends user code: one of the framework's, one of its own, or either with a text put
around it. -/
inductive Failure
  | framework (e : Error)
  | other (message : String)
  | within (context : String) (cause : Failure)
  deriving DecidableEq, Repr

namespace Failure

def message : Failure → String
  | framework e => e.message
  | other message => message
  | within context _ => context

def cause? : Failure → Option Error
  | framework e => some e
  | other _ => none
  | within _ cause => cause.cause?

end Failure

instance : Coe Error Failure := ⟨.framework⟩

inductive Panic
  | text (message : String)
  | silent
  deriving DecidableEq, Repr

def Panic.message : Panic → String
  | text message => message
  | silent => "handler panicked"

end WebDispatch
