import WebDispatch.Answer
import WebDispatch.Channel.Outbox
import WebDispatch.Run

namespace WebDispatch

variable {σ : Type}

structure Channel (σ : Type) where
  id : String
  path : String
  params : List (String × String)
  serializer : Serializer
  outbox : Outbox
  app : σ

namespace Channel

instance : Holds σ (Channel σ) where
  app := Channel.app
  setApp a c := { c with app := a }

def param? (c : Channel σ) (name : String) : Option String :=
  (c.params.find? fun p ↦ p.1 = name).map Prod.snd

def frame (serializer : Serializer) : Payload → Except Error Frame
  | .text s => .ok (.text s)
  | .binary bs => .ok (.binary bs)
  | .structured v => (serializer.serialize v).map .text

def enqueue (c : Channel σ) (f : Frame) : Except Error (Channel σ) := do
  return { c with outbox := ← c.outbox.offer f }

def send (c : Channel σ) (p : Payload) : Except Error (Channel σ) := do
  c.enqueue (← frame c.serializer p)

def close (c : Channel σ) : Except Error (Channel σ) :=
  c.enqueue .close

end Channel

abbrev Deliver (σ : Type) := Event → Run (Channel σ) Unit

structure Callbacks (σ : Type) where
  onText : Option (Deliver σ → String → Run (Channel σ) Reply) := none
  onBinary : Option (Deliver σ → Bytes → Run (Channel σ) Reply) := none
  onClose : Option (Deliver σ → Option CloseReason → Run (Channel σ) Unit) := none
  onError : Option (Deliver σ → String → Run (Channel σ) Unit) := none

namespace Run

/-- A change of the channel that may be refused, in which case nothing changes. -/
def tryChannel (f : Channel σ → Except Error (Channel σ)) : Run (Channel σ) Unit :=
  fun c ↦
    match f c with
    | .ok d => (.ok (), d)
    | .error e => (.error (.framework e), c)

def ignoringError {s : Type} (m : Run s Unit) : Run s Unit := do
  let _ ← m.attempt

end Run

namespace Callbacks

def reportError (cs : Callbacks σ) (deliver : Deliver σ) (message : String) :
    Run (Channel σ) Unit :=
  match cs.onError with
  | none => pure ()
  | some callback => (callback deliver message).ignoringError

/-- Sends the reply of a callback, if it can be sent, or reports the callback's error. -/
def settle (cs : Callbacks σ) (deliver : Deliver σ) (reply : Run (Channel σ) Reply) :
    Run (Channel σ) Unit := do
  match ← reply.attempt with
  | .ok none => pure ()
  | .ok (some p) => (Run.tryChannel fun c ↦ c.send p).ignoringError
  | .error f => cs.reportError deliver f.message

def deliverWith (cs : Callbacks σ) (deliver : Deliver σ) : Deliver σ
  | .text s =>
    match cs.onText with
    | none => pure ()
    | some callback => cs.settle deliver (callback deliver s)
  | .binary pieces =>
    match cs.onBinary with
    | none => pure ()
    | some callback => cs.settle deliver (callback deliver (reassemble pieces))
  | .close reason =>
    match cs.onClose with
    | none => pure ()
    | some callback => (callback deliver reason).ignoringError
  | .error message => cs.reportError deliver message

/-- How deep deliveries from within callbacks may nest. A delivery calls callbacks on the stack of its
thread, and this bound stands for the end of the stack. -/
def maxNesting : Nat := 1000

def deliverNested (cs : Callbacks σ) : Nat → Deliver σ
  | 0 => fun _ ↦ Run.panic .silent
  | depth + 1 => cs.deliverWith (cs.deliverNested depth)

def deliver (cs : Callbacks σ) : Deliver σ :=
  cs.deliverNested maxNesting

end Callbacks

end WebDispatch
