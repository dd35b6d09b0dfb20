import WebDispatch.Channel.Basic
import WebDispatch.Error

namespace WebDispatch

/-- Frames on their way to the peer, as many as the capacity allows. Frames are taken as long as the
writer runs. -/
structure Outbox where
  capacity : Nat
  queued : List Frame := []
  isOpen : Bool := true
  deriving DecidableEq, Repr

namespace Outbox

def defaultCapacity : Nat := 256

def create? (capacity : Nat) : Option Outbox :=
  if capacity = 0 then none else some { capacity }

def offer (o : Outbox) (f : Frame) : Except Error Outbox :=
  if !o.isOpen then .error .channelClosed
  else if o.capacity ≤ o.queued.length then .error (.channelFull o.capacity)
  else .ok { o with queued := o.queued ++ [f] }

def drain (o : Outbox) : List Frame × Outbox :=
  (o.queued, { o with queued := [] })

/-- The writer stops; frames that are still queued are lost. -/
def shut (o : Outbox) : Outbox :=
  { o with queued := [], isOpen := false }

end Outbox

/-- A queue together with what its writer has sent. -/
structure Line where
  outbox : Outbox
  written : List Frame := []
  deriving DecidableEq, Repr

namespace Line

def write (l : Line) : Line :=
  if !l.outbox.isOpen then l
  else
    match l.outbox.queued with
    | [] => l
    | .close :: _ => ⟨l.outbox.shut, l.written ++ [.close]⟩
    | f :: fs => ⟨{ l.outbox with queued := fs }, l.written ++ [f]⟩

def flush (l : Line) : Line :=
  l.outbox.queued.foldl (fun l _ ↦ l.write) l

end Line

end WebDispatch
