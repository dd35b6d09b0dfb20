import WebDispatch.Proofs.Conversations

namespace WebDispatch

variable {σ : Type}

namespace Traffic

theorem WriterRun.accepted_eq {t t' : Traffic σ} (h : t.WriterRun t') : t'.accepted = t.accepted := by
  induction h with
  | refl => rfl
  | tail _ hs ih => cases hs <;> exact ih

theorem WriterRun.eq_of_not_running {t t' : Traffic σ} (h : t.WriterRun t')
    (hw : t.writer.isRunning = false) : t' = t := by
  rcases h.cases_head with heq | ⟨u, hs, -⟩
  · exact heq.symm
  · exact absurd hs (atRest_of_not_running hw u)

/-- What is written are the frames that were accepted before the first closing frame, and then that. -/
def Closed (t : Traffic σ) : Prop :=
  ∃ before after, .close ∉ before ∧ t.accepted = before ++ .close :: after ∧
    t.written = before ++ [.close]

theorem Closed.accepted {t : Traffic σ} (h : t.Closed) : .close ∈ t.accepted := by
  obtain ⟨before, after, -, haccepted, -⟩ := h
  rw [haccepted]
  exact List.mem_append_right _ List.mem_cons_self

theorem Sound.closed_of_stopped {n : Nat} {t : Traffic σ} (h : t.Sound n)
    (hw : t.writer = .stopped) : t.Closed := by
  obtain ⟨front, hfront, hwritten⟩ := h.stopped hw
  have htaken : t.taken = front ++ [.close] := by
    rw [h.inHand, hw, hwritten]
    exact List.append_nil _
  obtain ⟨after, hafter⟩ := h.ordered
  refine ⟨front, after, hfront, ?_, hwritten⟩
  rw [← hafter, htaken, List.append_assoc, List.singleton_append]

theorem Sound.call_of_full {n : Nat} {t : Traffic σ} (h : t.Sound n) (hfull : t.queue.length = n)
    (k : Call) : t.call k = t := by
  cases h.callEnds k with
  | queued frame running room run call => exact absurd hfull (Nat.ne_of_lt room)
  | unserializable frame run call => exact call
  | full frame running full run call => exact call
  | closed frame running run call => exact call

theorem Sound.close_accepted_iff {n : Nat} {t u : Traffic σ} (h : t.Sound n)
    (hu : (t.call .close).WriterRun u) (hok : ∀ f, u.writer ≠ .failed f) :
    .close ∈ u.accepted ↔ .close ∈ t.accepted ∨ t.queue.length < n := by
  rw [hu.accepted_eq]
  cases h.callEnds .close with
  | @queued f frame running room run call =>
    obtain rfl : Frame.close = f := Except.ok.inj frame
    rw [call]
    exact ⟨fun _ ↦ .inr room, fun _ ↦ List.mem_append_right _ List.mem_cons_self⟩
  | unserializable frame run call => cases frame
  | full frame running full run call => rw [call, full, or_iff_left (Nat.lt_irrefl n)]
  | closed frame running run call =>
    rw [call] at hu ⊢
    obtain rfl := hu.eq_of_not_running running
    -- A writer that did not fail stops behind a closing frame only.
    have hstopped : u.writer = .stopped := by
      cases hw : u.writer with
      | waiting | sending f => simp [hw, Writer.isRunning] at running
      | stopped => rfl
      | failed f => exact absurd hw (hok f)
    have hclose := (h.closed_of_stopped hstopped).accepted
    exact ⟨fun _ ↦ .inl hclose, fun _ ↦ hclose⟩

theorem Sound.at_rest {n : Nat} {t : Traffic σ} (h : t.Sound n) (hrest : t.AtRest)
    (hok : ∀ f, t.writer ≠ .failed f) :
    t.Closed ∨ (.close ∉ t.accepted ∧ t.written = t.accepted) := by
  rcases hrest.waiting_or_stopped hok with ⟨hw, hq⟩ | hw
  · have hkept : t.taken ++ t.queue = t.accepted := h.kept (by rw [hw]; rfl)
    have hwritten : t.written = t.accepted := by
      rw [← hkept, hq, h.inHand, hw]
      simp [Writer.inHand]
    exact .inr ⟨hwritten ▸ h.goesOn (by simp [hw]), hwritten⟩
  · exact .inl (h.closed_of_stopped hw)

theorem Sound.written_of_not_closed {n : Nat} {t : Traffic σ} (h : t.Sound n) (hrest : t.AtRest)
    (hok : ∀ f, t.writer ≠ .failed f) (hnone : .close ∉ t.accepted) : t.written = t.accepted := by
  rcases h.at_rest hrest hok with hclosed | ⟨-, hwritten⟩
  · exact absurd hclosed.accepted hnone
  · exact hwritten

end Traffic

namespace Conversation

/-- When a channel has ended and the transport does not fail, the writer comes to rest. By then it has
written the frames that were accepted before the first closing frame, in order, and then a closing frame,
provided that one was accepted before the channel ended or that the queue had room then. Otherwise it has
written all frames that were accepted, and none of them closes. -/
theorem closed_unless_full (c : Channel σ) (n : Nat) (items : List Incoming) {x : Conversation σ}
    {t : Traffic σ} (h : (start c n items).Reaches x) (hended : x.stage = .ended t)
    (hok : ∀ f, x.traffic.writer ≠ .failed f) :
    (∃ y, x.Reaches y ∧ y.stage = .ended t ∧ y.traffic.AtRest ∧
      ∀ f, y.traffic.writer ≠ .failed f) ∧
    (x.traffic.AtRest →
      (.close ∈ t.accepted ∨ t.queue.length < n → x.traffic.Closed) ∧
      (.close ∉ t.accepted → t.queue.length = n →
        .close ∉ x.traffic.written ∧ x.traffic.written = x.traffic.accepted)) := by
  obtain ⟨ht, hwriter⟩ := h.ended rfl hended
  have hsound := (Traffic.sound_start c n).reaches ht
  have hx := (Traffic.sound_start c n).reaches h.traffic
  refine ⟨?_, fun hrest ↦ ?_⟩
  · obtain ⟨u, hu, hrest, hu'⟩ := Traffic.exists_rest hok
    exact ⟨_, reaches_of_writerRun hu, hended, hrest, hu'⟩
  have hiff := hsound.close_accepted_iff hwriter hok
  rcases hx.at_rest hrest hok with hclosed | ⟨hnone, hwritten⟩
  · refine ⟨fun _ ↦ hclosed, fun hopen hfull ↦ ?_⟩
    rcases hiff.1 hclosed.accepted with hearly | hroom
    · exact absurd hearly hopen
    · omega
  · exact ⟨fun hwould ↦ absurd (hiff.2 hwould) hnone, fun _ _ ↦ ⟨hwritten ▸ hnone, hwritten⟩⟩

theorem closed_unless_full_of_room :
    ∃ x t, (start Traffic.narrowChannel 2 []).Reaches x ∧ x.stage = .ended t ∧ x.traffic.AtRest ∧
      x.traffic.Closed ∧ x.traffic.written = [.text "a", .close] := by
  let t := (Traffic.start Traffic.narrowChannel 2).call (.send (.text "a"))
  let u := ((t.call .close).take (.text "a") [.close]).finish (.text "a")
  let v := (u.take .close []).stop
  have hsent : (start Traffic.narrowChannel 2 []).Reaches { traffic := t, unread := [] } :=
    .single (.code rfl (.call _ _))
  have hrun : (t.call .close).WriterRun v :=
    .tail (.tail (.tail (.single (.take rfl rfl)) (.finish rfl (by decide))) (.take rfl rfl)) (.stop rfl)
  have hx : (start Traffic.narrowChannel 2 []).Reaches
      { traffic := v, unread := [], stage := .ended t } :=
    (hsent.tail (.refused rfl)).trans (reaches_of_writerRun hrun)
  have hrest : v.AtRest := Traffic.atRest_of_not_running rfl
  obtain ⟨-, hwritten⟩ := closed_unless_full Traffic.narrowChannel 2 [] hx rfl fun f hf ↦ (by cases hf)
  exact ⟨_, t, hx, rfl, hrest, (hwritten hrest).1 (.inr (by decide)), rfl⟩

/-- A function that refuses the channel and leaves a full queue without a closing frame, before the
writer takes a frame of it, leaves the peer without one. -/
theorem unclosed_of_full {r : ChannelRoute σ} (hr : r.ByCalls) (c : Channel σ) {n : Nat}
    (items : List Incoming) {outcome : Outcome Unit} {o : Opening σ}
    (hrun : r.run ⟨(Traffic.start c n).channel, {}⟩ = (outcome, o)) (hrefused : outcome ≠ .ok ())
    (hfull : o.channel.outbox.queued.length = n) (hopen : .close ∉ o.channel.outbox.queued) :
    ∃ x t, (start c n items).Reaches x ∧ x.stage = .ended t ∧ x.traffic.AtRest ∧
      (∀ f, x.traffic.writer ≠ .failed f) ∧ x.traffic.written = o.channel.outbox.queued ∧
      (Link.connect r (Traffic.start c n).channel).1 = o.channel.outbox.queued.map .frame := by
  obtain ⟨x, t, hx, hended, hrest, hok, ht, hchannel, hsent⟩ :=
    reaches_of_connect hr c n items (by rw [hrun]; exact hrefused)
  rw [hrun] at hchannel
  have hsound := (Traffic.sound_start c n).reaches ht.reaches
  have hqueue : t.queue = o.channel.outbox.queued := by
    rw [Traffic.queue, hchannel]
  obtain ⟨hwaiting, htaken, -⟩ := ht.writer_side
  have haccepted : t.accepted = o.channel.outbox.queued := by
    rw [← hsound.kept (by rw [hwaiting]; rfl), htaken, hqueue]
    rfl
  have hcall : t.call .close = t := hsound.call_of_full (hqueue ▸ hfull) .close
  obtain ⟨-, hwriter⟩ := hx.ended rfl hended
  have hx' : x.traffic.accepted = o.channel.outbox.queued := by
    rw [hwriter.accepted_eq, hcall, haccepted]
  have hwritten : x.traffic.written = o.channel.outbox.queued := by
    rw [← hx']
    exact ((Traffic.sound_start c n).reaches hx.traffic).written_of_not_closed hrest hok (hx' ▸ hopen)
  exact ⟨x, t, hx, hended, hrest, hok, hwritten, by rw [hsent, hwritten]⟩

/-! ### A function that fills the queue -/

def sends : Nat → Run (Channel Unit) Unit
  | 0 => pure ()
  | k + 1 => do
    (Call.send (.text "x")).run
    sends k

def flooding (k : Nat) : ChannelRoute Unit where
  pattern := ⟨"/", []⟩
  function := fun _ ↦ do
    Opening.onChannel (sends k)
    Run.fail (.other "room is closed")
  injections := ⟨[], []⟩

theorem sends_byCalls (k : Nat) : (sends k).ByCalls id := by
  induction k with
  | zero => exact .pure ()
  | succ k ih => exact (Run.ByCalls.call _).bind fun _ ↦ ih

theorem sends_apply (k : Nat) {c : Channel Unit} (h : c.outbox.isOpen = true)
    (hroom : c.outbox.queued.length + k ≤ c.outbox.capacity) :
    sends k c = (.ok (),
      { c with outbox.queued := c.outbox.queued ++ List.replicate k (.text "x") }) := by
  induction k generalizing c with
  | zero =>
    rw [List.replicate_zero, List.append_nil]
    rfl
  | succ k ih =>
    have hcall : (Call.send (.text "x")).run c =
        (.ok (), { c with outbox.queued := c.outbox.queued ++ [Frame.text "x"] }) := by
      rw [Call.run_of_frame_ok rfl, Outbox.offer_of_room h (by omega)]
    have hrest : (c.outbox.queued ++ [Frame.text "x"]).length + k ≤ c.outbox.capacity := by
      rw [List.length_append, List.length_singleton]
      omega
    rw [sends, Run.bind_apply, hcall]
    refine (ih (c := { c with outbox.queued := c.outbox.queued ++ [.text "x"] }) h hrest).trans ?_
    simp only [List.append_assoc, List.singleton_append, List.replicate_succ]

theorem flooding_run (k : Nat) (c : Channel Unit) :
    (flooding k).run ⟨c, {}⟩ =
      match sends k c with
      | (.ok (), d) => (.error (.other "room is closed"), ⟨d, {}⟩)
      | (.error f, d) => (.error f, ⟨d, {}⟩)
      | (.panic p, d) => (.panic p, ⟨d, {}⟩) := by
  change (Opening.onChannel (sends k) >>= fun _ ↦ Run.fail _) (⟨c, {}⟩ : Opening Unit) = _
  rw [Run.bind_apply, Opening.onChannel, Run.zoom]
  rcases sends k c with ⟨o, d⟩
  cases o <;> rfl

theorem flooding_byCalls (k : Nat) : (flooding k).ByCalls where
  function := fun _ ↦ (Opening.byCalls_onChannel (sends_byCalls k)).bind fun _ ↦ .fail _
  callbacks := fun c ↦ by
    have h : ((flooding k).run ⟨c, {}⟩).2.callbacks = {} := by
      rw [flooding_run]
      rcases sends k c with ⟨o, d⟩
      cases o <;> rfl
    rw [h]
    exact ⟨nofun, nofun, nofun, nofun⟩

theorem flooding_fills (k : Nat) (c : Channel Unit) :
    (flooding k).run ⟨(Traffic.start c k).channel, {}⟩ =
      (.error (.other "room is closed"),
        ⟨{ (Traffic.start c k).channel with
            outbox.queued := List.replicate k (.text "x") }, {}⟩) := by
  have hsends := sends_apply k (c := (Traffic.start c k).channel) rfl (Nat.le_of_eq (Nat.zero_add k))
  rw [flooding_run, hsends]
  rfl

theorem closing_frame_missed :
    ∃ x t, (start Traffic.narrowChannel Outbox.defaultCapacity []).Reaches x ∧ x.stage = .ended t ∧
      x.traffic.AtRest ∧ (∀ f, x.traffic.writer ≠ .failed f) ∧ .close ∉ x.traffic.written ∧
      .frame .close ∉ (Link.connect (flooding Outbox.defaultCapacity)
        (Traffic.start Traffic.narrowChannel Outbox.defaultCapacity).channel).1 := by
  have hopen : .close ∉ List.replicate Outbox.defaultCapacity (Frame.text "x") :=
    fun h ↦ by cases List.eq_of_mem_replicate h
  obtain ⟨x, t, hx, hended, hrest, hok, hwritten, hsent⟩ :=
    unclosed_of_full (flooding_byCalls _) Traffic.narrowChannel []
      (flooding_fills Outbox.defaultCapacity _) nofun List.length_replicate hopen
  refine ⟨x, t, hx, hended, hrest, hok, hwritten ▸ hopen, ?_⟩
  rw [hsent, List.map_replicate]
  exact fun h ↦ by cases List.eq_of_mem_replicate h

end Conversation

end WebDispatch
