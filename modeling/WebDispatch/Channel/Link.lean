import WebDispatch.Channel.Serving

namespace WebDispatch

variable {σ : Type}

inductive Sent
  | frame (f : Frame)
  | pong (bs : Bytes)
  deriving DecidableEq, Repr

inductive Link (σ : Type)
  | live (s : Serving σ)
  | ended (app : σ)

namespace Link

def app : Link σ → σ
  | live s => s.channel.app
  | ended app => app

def settle (s : Serving σ) : List Sent × Link σ :=
  let (frames, channel) := s.channel.flush
  let s := { s with channel }
  (frames.map .frame,
    if channel.outbox.isOpen then live s else ended (s.receive (.close none)).finish.channel.app)

def connect (r : ChannelRoute σ) (c : Channel σ) : List Sent × Link σ :=
  match r.serve c with
  | .ok s => settle s
  | .error c => (c.flush.1.map .frame, ended c.app)

def echo : Incoming → List Sent
  | .ping bs => [.pong bs]
  | _ => []

/-- An item from the peer. After the last one nothing reaches the peer any more. -/
def receive (l : Link σ) (i : Incoming) : List Sent × Link σ :=
  match l with
  | ended app => ([], ended app)
  | live s =>
    let s := s.receive i
    if s.reception = .reading then
      let (sent, l) := settle s
      (echo i ++ sent, l)
    else ([], ended s.finish.channel.app)

def receiveAll (l : Link σ) (items : List Incoming) : List Sent × Link σ :=
  items.foldl (fun (sent, l) i ↦
    let (more, l) := l.receive i
    (sent ++ more, l)) ([], l)

def converse (l : Link σ) : List (List Incoming) → List (List Sent) × Link σ
  | [] => ([], l)
  | turn :: turns =>
    let (sent, l) := l.receiveAll turn
    let (more, l) := l.converse turns
    (sent :: more, l)

end Link

end WebDispatch
