import WebDispatch.Error
import WebDispatch.Session
import WebDispatch.Text.Blank

namespace WebDispatch

structure Settings where
  workerThreads : Nat
  maxBodyBytes : Nat := 10 * 1024 * 1024
  sessionCookie : String := "SWITCHYARDSESSION"
  /-- In milliseconds. -/
  sessionTimeout : Nat := SessionStore.defaultTimeout
  templateDir : String := "templates"
  deriving DecidableEq, Repr

namespace Settings

def workerThreadsKey : String := "SWITCHYARD_WORKER_THREADS"
def maxBodyBytesKey : String := "SWITCHYARD_MAX_BODY_BYTES"
def sessionCookieKey : String := "SWITCHYARD_SESSION_COOKIE"
def sessionTimeoutKey : String := "SWITCHYARD_SESSION_TIMEOUT_SECS"
def templateDirKey : String := "SWITCHYARD_TEMPLATE_DIR"

inductive NumberFault
  | empty
  | invalidDigit
  | tooLarge
  deriving DecidableEq, Repr

def NumberFault.message : NumberFault → String
  | .empty => "cannot parse integer from empty string"
  | .invalidDigit => "invalid digit found in string"
  | .tooLarge => "number too large to fit in target type"

def maxNumber : Nat := 0xFFFFFFFFFFFFFFFF

/-- Digits behind those that made up a number so far; the first character that is no digit, or at
which the number grows too large, decides the fault. -/
def digits (n : Nat) : List Char → Except NumberFault Nat
  | [] => .ok n
  | c :: cs =>
    if !c.isDigit then .error .invalidDigit
    else
      let m := n * 10 + (c.toNat - 48)
      if maxNumber < m then .error .tooLarge else digits m cs

def number : List Char → Except NumberFault Nat
  | [] => .error .empty
  | ['+'] => .error .invalidDigit
  | '+' :: cs => digits 0 cs
  | cs => digits 0 cs

def numberOf (key text : String) : Except Error Nat :=
  match number (Text.strip Text.isBlank text.toList) with
  | .ok n => .ok n
  | .error f => .error (.settings key f.message)

def workerThreadsOf (text : String) : Except Error Nat := do
  let n ← numberOf workerThreadsKey text
  if n = 0 then throw (.settings workerThreadsKey "must be at least 1")
  return n

def setting {α : Type} (text : Option String) (default : α) (read : String → Except Error α) :
    Except Error α :=
  match text with
  | some text => read text
  | none => .ok default

def ofLookup (processors : Nat) (lookup : String → Option String) : Except Error Settings := do
  let defaults : Settings := { workerThreads := processors }
  let workerThreads ← setting (lookup workerThreadsKey) processors workerThreadsOf
  let maxBodyBytes ← setting (lookup maxBodyBytesKey) defaults.maxBodyBytes
    (numberOf maxBodyBytesKey)
  let sessionTimeout ← setting (lookup sessionTimeoutKey) defaults.sessionTimeout
    fun text ↦ (numberOf sessionTimeoutKey text).map (· * 1000)
  return {
    workerThreads, maxBodyBytes, sessionTimeout
    sessionCookie := (lookup sessionCookieKey).getD defaults.sessionCookie
    templateDir := (lookup templateDirKey).getD defaults.templateDir }

end Settings

end WebDispatch
