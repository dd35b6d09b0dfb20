import WebDispatch.Proofs.Conversations

namespace WebDispatch

variable {σ : Type}

namespace ChannelRoute

/-- A channel is served if and only if its function returns; otherwise it is left as the function left
it, but for the closing frame. A channel that is served is told the messages of the connection up to the
first closing frame or error, then that, and at the end one closing event, whether its callbacks return,
fail or panic; further items make no difference. So a channel whose callbacks record what they are told
has a record of just that. While code and the writer work at the same time, what a channel was told so
far is a first part of that, all of it at the end, and nothing unless its function has returned. -/
theorem closes_once_last (r : ChannelRoute σ) (c : Channel σ) :
    ((∃ s, r.serve c = .ok s) ↔ (r.run ⟨c, {}⟩).1 = .ok ()) ∧
    (∀ d, r.serve c = .error d → d = (r.run ⟨c, {}⟩).2.channel.sendClose) ∧
    (∀ s, r.serve c = .ok s →
      s.channel = (r.run ⟨c, {}⟩).2.channel ∧ s.callbacks = (r.run ⟨c, {}⟩).2.callbacks ∧
      ∀ items,
        (s.run items).channel =
          ((Incoming.events items).foldl (Channel.deliver s.callbacks) s.channel).sendClose ∧
        (∃ front reason, Incoming.events items = front ++ [.close reason] ∧
          ∀ e ∈ front, e.isClose = false) ∧
        (∀ i ∈ items, i.isLast = true → ∀ more, s.run (items ++ more) = s.run items) ∧
        ∀ log : σ → List Event,
          (∀ e ∈ Incoming.events items, ∀ c,
            log (Channel.deliver s.callbacks c e).app = log c.app ++ [e]) →
          log (s.run items).channel.app = log s.channel.app ++ Incoming.events items) ∧
    ∀ n items (x : Conversation σ), (Conversation.start c n items).Reaches x →
      (x.isServed = false → x.heard = []) ∧
      (x.isServed = true → x.heard <+: Incoming.events items) ∧
      ∀ t, x.isServed = true → x.stage = .ended t → x.heard = Incoming.events items := by
  refine ⟨⟨fun ⟨s, hs⟩ ↦ (serve_eq_ok_iff.1 hs).1, fun h ↦ ⟨_, serve_of_ok h⟩⟩, fun d ↦ serve_eq_error,
    fun s hs ↦ ?_, fun n items x hx ↦ ?_⟩
  · obtain ⟨-, rfl⟩ := serve_eq_ok_iff.1 hs
    refine ⟨rfl, rfl, fun items ↦ ?_⟩
    have hrun := Serving.run_channel
      { channel := (r.run ⟨c, {}⟩).2.channel, callbacks := (r.run ⟨c, {}⟩).2.callbacks } items
    refine ⟨hrun, Incoming.close_is_last items,
      fun i hi hlast ↦ Serving.run_append_of_isLast _ hi hlast, fun log hlog ↦ ?_⟩
    rw [hrun, Channel.sendClose_app]
    exact Channel.foldl_deliver_log hlog _
  · have htold := hx.told (Conversation.told_start c n items)
    refine ⟨htold.heard_of_unserved, fun hserved ↦ ?_, fun t hserved hended ↦ ?_⟩
    · exact ⟨x.toCome, htold.heard_of_served hserved⟩
    · have hall := htold.heard_of_served hserved
      rwa [Conversation.toCome, hended, List.append_nil] at hall

/-! ### Callbacks that record what they are told, and then panic -/

def record (e : Event) : Run (Channel (List Event)) Unit := do
  Run.modify fun c ↦ { c with app := c.app ++ [e] }
  Run.panic .silent

def recorders : Callbacks (List Event) where
  onText := some fun _ s ↦ do record (.text s); return none
  onBinary := some fun _ bs ↦ do record (.binary [bs]); return none
  onClose := some fun _ reason ↦ record (.close reason)
  onError := some fun _ message ↦ record (.error message)

def recording (function : Run (Opening (List Event)) Unit) : ChannelRoute (List Event) where
  pattern := ⟨"/", []⟩
  function := fun _ ↦ do Opening.setCallbacks recorders; function
  injections := ⟨[], []⟩

def freshChannel : Channel (List Event) where
  id := "c"
  path := "/"
  params := []
  serializer := .json
  outbox := { capacity := Outbox.defaultCapacity }
  app := []

theorem closes_once_last_of_recording :
    (∃ s, (recording (pure ())).serve freshChannel = .ok s ∧
      (s.run [.text "a", .ping [], .binary [1], .failure "reset", .text "b"]).channel.app =
        [.text "a", .binary [[1]], .error "reset", .close none]) ∧
    ∃ d, (recording (Run.fail (.other "no"))).serve freshChannel = .error d ∧ d.app = [] := by
  obtain ⟨hopens, -, hserved, -⟩ := closes_once_last (recording (pure ())) freshChannel
  obtain ⟨s, hs⟩ := hopens.2 rfl
  obtain ⟨hchannel, hcallbacks, hrun⟩ := hserved s hs
  obtain ⟨-, -, -, hlog⟩ := hrun [.text "a", .ping [], .binary [1], .failure "reset", .text "b"]
  obtain ⟨-, hrefused, -, -⟩ := closes_once_last (recording (Run.fail (.other "no"))) freshChannel
  refine ⟨⟨s, hs, ?_⟩, _, rfl, congrArg Channel.app (hrefused _ rfl)⟩
  rw [hchannel, hcallbacks] at hlog
  refine hlog id fun e he c ↦ ?_
  have he : e ∈ [.text "a", .binary [[1]], .error "reset", .close none] := he
  simp only [List.mem_cons, List.not_mem_nil, or_false] at he
  rcases he with rfl | rfl | rfl | rfl <;> rfl

end ChannelRoute

end WebDispatch
