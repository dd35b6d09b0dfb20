import WebDispatch.Channel.Session
import WebDispatch.Injection.Injector
import WebDispatch.PathPattern

namespace WebDispatch

variable {σ : Type}

structure Opening (σ : Type) where
  channel : Channel σ
  callbacks : Callbacks σ := {}

namespace Opening

instance : Holds σ (Opening σ) where
  app := fun o ↦ o.channel.app
  setApp a o := { o with channel := { o.channel with app := a } }

def onChannel {α : Type} (m : Run (Channel σ) α) : Run (Opening σ) α :=
  Run.zoom Opening.channel (fun c o ↦ { o with channel := c }) m

def deliver (e : Event) : Run (Opening σ) Unit :=
  fun o ↦ onChannel (o.callbacks.deliver e) o

def setCallbacks (cs : Callbacks σ) : Run (Opening σ) Unit :=
  Run.modify fun o ↦ { o with callbacks := cs }

end Opening

abbrev ChannelFunction (σ : Type) := List (Injected σ) → Run (Opening σ) Unit

structure ChannelRoute (σ : Type) where
  pattern : PathPattern
  function : ChannelFunction σ
  injections : Injections σ

namespace ChannelRoute

/-- Opens a channel. Values are injected as outside any exchange. -/
def run (r : ChannelRoute σ) : Run (Opening σ) Unit := do
  let values ← Run.ofExcept (← Run.ofApp (r.injections.resolve none))
  r.function values

end ChannelRoute

end WebDispatch
