import WebDispatch.Channel.Route

namespace WebDispatch

variable {σ : Type}

inductive Incoming
  | text (s : String)
  | binary (bs : Bytes)
  | ping (bs : Bytes)
  | pong (bs : Bytes)
  | close (reason : Option CloseReason)
  | failure (message : String)
  deriving DecidableEq, Repr

inductive Reception
  | reading
  | closed
  | broken
  deriving DecidableEq, Repr

namespace Reception

def receive : Reception → Incoming → Reception × Option Event
  | reading, .text s => (reading, some (.text s))
  | reading, .binary bs => (reading, some (.binary [bs]))
  | reading, .ping _ => (reading, none)
  | reading, .pong _ => (reading, none)
  | reading, .close reason => (closed, some (.close reason))
  | reading, .failure message => (broken, some (.error message))
  | r, _ => (r, none)

/-- The event behind the last item: the channel ends, unless a closing frame said so. -/
def lastEvent? : Reception → Option Event
  | closed => none
  | _ => some (.close none)

end Reception

namespace Channel

/-- Delivers an event on a worker; whether that panics makes no difference. -/
def deliver (cs : Callbacks σ) (c : Channel σ) (e : Event) : Channel σ :=
  ((cs.deliver e).contained c).2

def sendClose (c : Channel σ) : Channel σ :=
  match c.close with
  | .ok c => c
  | .error _ => c

def flush (c : Channel σ) : List Frame × Channel σ :=
  let l := (Line.mk c.outbox []).flush
  (l.written, { c with outbox := l.outbox })

end Channel

structure Serving (σ : Type) where
  channel : Channel σ
  callbacks : Callbacks σ
  reception : Reception := .reading

namespace Serving

def deliver (s : Serving σ) (e : Option Event) : Serving σ :=
  match e with
  | none => s
  | some e => { s with channel := s.channel.deliver s.callbacks e }

def receive (s : Serving σ) (i : Incoming) : Serving σ :=
  let (reception, e) := s.reception.receive i
  { s with reception }.deliver e

def finish (s : Serving σ) : Serving σ :=
  let s := s.deliver s.reception.lastEvent?
  { s with channel := s.channel.sendClose }

def run (s : Serving σ) (items : List Incoming) : Serving σ :=
  (items.foldl receive s).finish

end Serving

/-- Opens a channel on a worker. One whose function fails or panics is closed at once. -/
def ChannelRoute.serve (r : ChannelRoute σ) (c : Channel σ) : Except (Channel σ) (Serving σ) :=
  match r.run.contained ⟨c, {}⟩ with
  | (.ok (.ok ()), o) => .ok { channel := o.channel, callbacks := o.callbacks }
  | (_, o) => .error o.channel.sendClose

end WebDispatch
