import WebDispatch.Json.Basic
import WebDispatch.Table

namespace WebDispatch

structure Session where
  id : String
  attributes : Table Json
  lastAccess : Int
  deriving Repr

namespace Session

/-- Differences of times stay in 64 bits with sign. -/
def saturate (n : Int) : Int :=
  max (-0x8000000000000000) (min n 0x7FFFFFFFFFFFFFFF)

/-- The timeout as a 64-bit integer with sign, the bits beyond dropped. -/
def timeoutBits (timeout : Nat) : Int :=
  Int.bmod timeout 0x10000000000000000

def isExpired (s : Session) (now : Int) (timeout : Nat) : Bool :=
  timeoutBits timeout < saturate (now - s.lastAccess)

end Session

/-- Sessions idle for longer than the timeout are dropped when they are looked up, by an eviction, and by
a sweep that runs when a session is stored, at most once per timeout. Times are milliseconds. -/
structure SessionStore where
  cookieName : String
  timeout : Nat
  sessions : Table Session := {}
  stored : List String := []
  lastSweep : Int
  deriving Repr

namespace SessionStore

def defaultTimeout : Nat := 30 * 60 * 1000

def create (cookieName : String) (timeout : Nat) (now : Int) : SessionStore :=
  { cookieName, timeout, lastSweep := now }

def size (st : SessionStore) : Nat :=
  st.stored.length

def isStored (st : SessionStore) (id : String) : Bool :=
  st.stored.contains id

def held? (st : SessionStore) (id : String) : Option Session :=
  st.sessions.get? id

def isExpired (st : SessionStore) (now : Int) (id : String) : Bool :=
  match st.held? id with
  | some s => s.isExpired now st.timeout
  | none => false

def drop (st : SessionStore) (id : String) : SessionStore :=
  { st with stored := st.stored.filter (· ≠ id) }

def update (st : SessionStore) (id : String) (f : Session → Session) : SessionStore :=
  match st.held? id with
  | some s => { st with sessions := st.sessions.insert id (f s) }
  | none => st

/-- Looks a session up: whether there is a live one, which is thereby used now. An expired one is
dropped. -/
def find (st : SessionStore) (now : Int) (id : String) : Bool × SessionStore :=
  if st.isStored id then
    if st.isExpired now id then (false, st.drop id)
    else (true, st.update id fun s ↦ { s with lastAccess := now })
  else (false, st)

def start (st : SessionStore) (now : Int) (id : String) : SessionStore :=
  { st with sessions := st.sessions.insert id ⟨id, {}, now⟩ }

def evict (st : SessionStore) (now : Int) : SessionStore :=
  { st with stored := st.stored.filter fun id ↦ !st.isExpired now id, lastSweep := now }

def isSweepDue (st : SessionStore) (now : Int) : Bool :=
  Session.timeoutBits st.timeout ≤ Session.saturate (now - st.lastSweep)

/-- Stores a session that was started, after a sweep if one is due. -/
def adopt (st : SessionStore) (now : Int) (id : String) : SessionStore :=
  let st := if st.isSweepDue now then st.evict now else st
  { st with stored := if st.isStored id then st.stored else st.stored ++ [id] }

def evicted (st : SessionStore) (now : Int) : Nat :=
  st.size - (st.evict now).size

def attribute? (st : SessionStore) (id name : String) : Option Json :=
  (st.held? id).bind fun s ↦ s.attributes.get? name

def isBlank (st : SessionStore) (id : String) : Bool :=
  match st.held? id with
  | some s => s.attributes.size == 0
  | none => true

def setAttribute (st : SessionStore) (id name : String) (value : Json) : SessionStore :=
  st.update id fun s ↦ { s with attributes := s.attributes.insert name value }

def removeAttribute (st : SessionStore) (id name : String) : SessionStore :=
  st.update id fun s ↦ { s with attributes := s.attributes.erase name }

end SessionStore

end WebDispatch
