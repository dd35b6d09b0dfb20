import WebDispatch.Channel.Link
import WebDispatch.Proofs.ChannelCode
import WebDispatch.Proofs.ConnectionEvents
import WebDispatch.Proofs.WriterRuns

namespace WebDispatch

variable {σ : Type}

/-- What the connection is at. -/
inductive Stage (σ : Type)
  | opening
  | between (r : Reception)
  | hearing (r : Reception)
  | parting
  | ended (last : Traffic σ)

namespace Stage

def runsCode : Stage σ → Bool
  | opening | hearing _ | parting => true
  | between _ | ended _ => false

def afterRead : Reception × Option Event → Stage σ
  | (r, none) => between r
  | (r, some _) => hearing r

theorem afterRead_cases (result : Reception × Option Event) :
    (afterRead result : Stage σ) = between result.1 ∨
      (afterRead result : Stage σ) = hearing result.1 := by
  obtain ⟨r, e⟩ := result
  cases e with
  | none => exact .inl rfl
  | some e => exact .inr rfl

end Stage

structure Conversation (σ : Type) where
  traffic : Traffic σ
  unread : List Incoming
  stage : Stage σ := .opening
  isServed : Bool := false
  heard : List Event := []

namespace Conversation

def start (c : Channel σ) (n : Nat) (items : List Incoming) : Conversation σ where
  traffic := .start c n
  unread := items

def leave (x : Conversation σ) : Conversation σ :=
  { x with traffic := x.traffic.call .close, stage := .ended x.traffic }

def read (x : Conversation σ) (i : Incoming) (items : List Incoming) : Conversation σ :=
  { x with
    unread := items
    stage := .afterRead (Reception.reading.receive i)
    heard := x.heard ++ (Reception.reading.receive i).2.toList }

def conclude (x : Conversation σ) (r : Reception) : Conversation σ :=
  match r.lastEvent? with
  | some e => { x with stage := .parting, heard := x.heard ++ [e] }
  | none => x.leave

inductive Step (x : Conversation σ) : Conversation σ → Prop
  | code {t : Traffic σ} (runs : x.stage.runsCode = true) (h : Traffic.CodeStep x.traffic t) :
      Step x { x with traffic := t }
  | writer {t : Traffic σ} (h : Traffic.WriterStep x.traffic t) : Step x { x with traffic := t }
  | opened (h : x.stage = .opening) : Step x { x with stage := .between .reading, isServed := true }
  | refused (h : x.stage = .opening) : Step x x.leave
  | read {i : Incoming} {items : List Incoming} (h : x.stage = .between .reading)
      (next : x.unread = i :: items) : Step x (x.read i items)
  | heard {r : Reception} (h : x.stage = .hearing r) : Step x { x with stage := .between r }
  | conclude {r : Reception} (h : x.stage = .between r) (read : r = .reading → x.unread = []) :
      Step x (x.conclude r)
  | parted (h : x.stage = .parting) : Step x x.leave

def Reaches : Conversation σ → Conversation σ → Prop :=
  Relation.ReflTransGen Step

theorem Step.traffic {x y : Conversation σ} (h : Step x y) : x.traffic.Reaches y.traffic := by
  have hleave : x.traffic.Reaches x.leave.traffic := .single (.code (.call _ _))
  cases h with
  | code runs h => exact .single (.code h)
  | writer h => exact .single (.writer h)
  | opened h | read h next | heard h => exact .refl
  | refused h | parted h => exact hleave
  | @conclude r h read =>
    cases r with
    | reading | broken => exact .refl
    | closed => exact hleave

theorem Reaches.traffic {x y : Conversation σ} (h : x.Reaches y) : x.traffic.Reaches y.traffic := by
  induction h with
  | refl => exact .refl
  | tail _ hs ih => exact ih.trans hs.traffic

/-- Behind the end of a channel only the writer works, and at the end itself a closing frame was offered
to the queue. -/
theorem Step.ended {x y : Conversation σ} (h : Step x y) {t : Traffic σ} (hy : y.stage = .ended t) :
    (x.stage = .ended t ∧ Traffic.WriterStep x.traffic y.traffic) ∨
      (x.traffic = t ∧ y.traffic = t.call .close) := by
  have hleave : x.leave.stage = .ended t → x.traffic = t ∧ x.leave.traffic = t.call .close := by
    intro hx
    obtain rfl : x.traffic = t := Stage.ended.inj hx
    exact ⟨rfl, rfl⟩
  cases h with
  | code runs h =>
    have hx : x.stage = .ended t := hy
    rw [hx] at runs
    cases runs
  | writer h => exact .inl ⟨hy, h⟩
  | opened h | heard h => cases hy
  | refused h | parted h => exact .inr (hleave hy)
  | @read i items h next =>
    rcases Stage.afterRead_cases (Reception.reading.receive i) with hr | hr
    · cases hr.symm.trans hy
    · cases hr.symm.trans hy
  | @conclude r h read =>
    cases r with
    | reading | broken => cases hy
    | closed => exact .inr (hleave hy)

theorem Reaches.ended {x y : Conversation σ} (h : x.Reaches y) (hx : x.stage.runsCode = true)
    {t : Traffic σ} (hy : y.stage = .ended t) :
    x.traffic.Reaches t ∧ (t.call .close).WriterRun y.traffic := by
  induction h with
  | refl =>
    rw [hy] at hx
    cases hx
  | @tail u v hr hs ih =>
    rcases hs.ended hy with ⟨hu, hw⟩ | ⟨rfl, hv⟩
    · obtain ⟨ht, hrun⟩ := ih hu
      exact ⟨ht, hrun.tail hw⟩
    · rw [hv]
      exact ⟨Reaches.traffic hr, .refl⟩

/-! ### What the channel is told -/

def toCome (x : Conversation σ) : List Event :=
  match x.stage with
  | .opening => Incoming.events x.unread
  | .between r | .hearing r => r.events x.unread
  | .parting | .ended _ => []

/-- How much the channel was told of a connection with these items. -/
inductive Told (items : List Incoming) (x : Conversation σ) : Prop
  | opening (stage : x.stage = .opening) (unserved : x.isServed = false) (unread : x.unread = items)
      (heard : x.heard = [])
  | refused {t : Traffic σ} (stage : x.stage = .ended t) (unserved : x.isServed = false)
      (heard : x.heard = [])
  | served (stage : x.stage ≠ .opening) (served : x.isServed = true)
      (heard : x.heard ++ x.toCome = Incoming.events items)

theorem Told.served_of_stage {items : List Incoming} {x : Conversation σ} (h : x.Told items)
    (hopening : x.stage ≠ .opening) (hended : ∀ t, x.stage ≠ .ended t) :
    x.isServed = true ∧ x.heard ++ x.toCome = Incoming.events items := by
  cases h with
  | opening stage => exact absurd stage hopening
  | refused stage => exact absurd stage (hended _)
  | served stage served heard => exact ⟨served, heard⟩

theorem Told.served_of_between {items : List Incoming} {x : Conversation σ} (h : x.Told items)
    {r : Reception} (hx : x.stage = .between r) :
    x.isServed = true ∧ x.heard ++ r.events x.unread = Incoming.events items := by
  have hs := h.served_of_stage (by simp [hx]) (by simp [hx])
  rwa [toCome, hx] at hs

theorem Told.with_traffic {items : List Incoming} {x : Conversation σ} (h : x.Told items)
    (t : Traffic σ) : Told items { x with traffic := t } := by
  cases h with
  | opening stage unserved unread heard => exact .opening stage unserved unread heard
  | refused stage unserved heard => exact .refused stage unserved heard
  | served stage served heard => exact .served stage served heard

theorem toCome_of_read (x : Conversation σ) (i : Incoming) (items : List Incoming) :
    (x.read i items).toCome = (Reception.reading.receive i).1.events items := by
  unfold toCome read
  rcases Reception.reading.receive i with ⟨r, e⟩
  cases e <;> rfl

theorem Told.read {items more : List Incoming} {x : Conversation σ} (h : x.Told items)
    (hx : x.stage = .between .reading) {i : Incoming} (next : x.unread = i :: more) :
    (x.read i more).Told items := by
  obtain ⟨served, heard⟩ := h.served_of_between hx
  have hstage : (x.read i more).stage ≠ .opening := by
    intro ho
    rcases Stage.afterRead_cases (Reception.reading.receive i) with hr | hr
    · cases hr.symm.trans ho
    · cases hr.symm.trans ho
  refine .served hstage served ?_
  rw [toCome_of_read, ← heard, next, Reception.events_cons]
  exact List.append_assoc _ _ _

theorem Told.conclude {items : List Incoming} {x : Conversation σ} (h : x.Told items)
    {r : Reception} (hx : x.stage = .between r) (read : r = .reading → x.unread = []) :
    (x.conclude r).Told items := by
  obtain ⟨served, heard⟩ := h.served_of_between hx
  cases r with
  | reading =>
    rw [read rfl] at heard
    exact .served nofun served ((List.append_nil _).trans heard)
  | closed => exact .served nofun served heard
  | broken => exact .served nofun served ((List.append_nil _).trans heard)

theorem Step.told {items : List Incoming} {x y : Conversation σ} (hs : Step x y)
    (h : x.Told items) : y.Told items := by
  cases hs with
  | code runs hs => exact h.with_traffic _
  | writer hs => exact h.with_traffic _
  | opened hx =>
    cases h with
    | opening stage unserved unread heard =>
      refine .served nofun rfl ?_
      change x.heard ++ Incoming.events x.unread = _
      rw [heard, unread, List.nil_append]
    | refused stage unserved heard => cases hx.symm.trans stage
    | served stage served heard => exact absurd hx stage
  | refused hx =>
    cases h with
    | opening stage unserved unread heard => exact .refused rfl unserved heard
    | refused stage unserved heard => cases hx.symm.trans stage
    | served stage served heard => exact absurd hx stage
  | read hx next => exact h.read hx next
  | @heard r hx =>
    obtain ⟨served, heard⟩ := h.served_of_stage (by simp [hx]) (by simp [hx])
    rw [toCome, hx] at heard
    exact .served nofun served heard
  | conclude hx read => exact h.conclude hx read
  | parted hx =>
    obtain ⟨served, heard⟩ := h.served_of_stage (by simp [hx]) (by simp [hx])
    rw [toCome, hx] at heard
    exact .served nofun served heard

theorem Reaches.told {items : List Incoming} {x y : Conversation σ} (hr : x.Reaches y)
    (h : x.Told items) : y.Told items := by
  induction hr with
  | refl => exact h
  | tail _ hs ih => exact hs.told ih

theorem told_start (c : Channel σ) (n : Nat) (items : List Incoming) : (start c n items).Told items :=
  .opening rfl rfl rfl rfl

theorem Told.heard_of_unserved {items : List Incoming} {x : Conversation σ} (h : x.Told items)
    (hx : x.isServed = false) : x.heard = [] := by
  cases h with
  | opening stage unserved unread heard => exact heard
  | refused stage unserved heard => exact heard
  | served stage served heard => cases hx.symm.trans served

theorem Told.heard_of_served {items : List Incoming} {x : Conversation σ} (h : x.Told items)
    (hx : x.isServed = true) : x.heard ++ x.toCome = Incoming.events items := by
  cases h with
  | opening stage unserved unread heard => cases hx.symm.trans unserved
  | refused stage unserved heard => cases hx.symm.trans unserved
  | served stage served heard => exact heard

/-! ### A channel that is served alone

While the writer rests, what serves a channel takes these steps one after another. -/

theorem reaches_of_codeRun {x : Conversation σ} (runs : x.stage.runsCode = true) {t : Traffic σ}
    (h : x.traffic.CodeRun t) : x.Reaches { x with traffic := t } := by
  induction h with
  | refl => exact .refl
  | tail _ hs ih => exact ih.tail (.code runs hs)

theorem reaches_of_writerRun {x : Conversation σ} {t : Traffic σ} (h : x.traffic.WriterRun t) :
    x.Reaches { x with traffic := t } := by
  induction h with
  | refl => exact .refl
  | tail _ hs ih => exact ih.tail (.writer hs)

theorem leave_channel (x : Conversation σ) :
    x.leave.traffic.channel = x.traffic.channel.sendClose := by
  have h : (Run.tryChannel Channel.close x.traffic.channel).2 = x.traffic.channel.sendClose := by
    unfold Run.tryChannel Channel.sendClose
    cases x.traffic.channel.close <;> rfl
  exact h

/-- The channel is between two items, as a server has it. -/
structure Follows (x : Conversation σ) (s : Serving σ) : Prop where
  stage : x.stage = .between s.reception
  channel : x.traffic.channel = s.channel

theorem Follows.finish {x : Conversation σ} {s : Serving σ} (h : x.Follows s)
    (hcs : s.callbacks.ByCalls) (hread : s.reception = .reading → x.unread = []) :
    ∃ y t, x.Reaches y ∧ y.stage = .ended t ∧ y.traffic.channel = s.finish.channel := by
  have hs : x.Reaches (x.conclude s.reception) := .single (.conclude h.stage hread)
  cases hr : s.reception with
  | closed =>
    rw [hr] at hs
    refine ⟨x.leave, x.traffic, hs, rfl, ?_⟩
    rw [leave_channel, h.channel, Serving.finish, hr]
    rfl
  | reading | broken =>
    rw [hr] at hs
    obtain ⟨t, ht, htc⟩ := Channel.leads_deliver hcs x.traffic (.close none)
    have hparted := (Relation.ReflTransGen.trans hs (reaches_of_codeRun rfl ht)).tail (.parted rfl)
    refine ⟨_, t, hparted, rfl, ?_⟩
    rw [leave_channel, Serving.finish, hr]
    change t.channel.sendClose = _
    rw [htc, h.channel]
    rfl

theorem Follows.receive {x : Conversation σ} {s : Serving σ} (h : x.Follows s)
    (hcs : s.callbacks.ByCalls) (hread : s.reception = .reading) {i : Incoming}
    {items : List Incoming} (next : x.unread = i :: items) :
    ∃ y, x.Reaches y ∧ y.unread = items ∧ y.Follows (s.receive i) := by
  have hstage : x.stage = .between .reading := hread ▸ h.stage
  have hs : x.Reaches (x.read i items) := .single (.read hstage next)
  rw [Serving.receive_eq, hread]
  rcases hr : Reception.reading.receive i with ⟨r, e⟩
  have hstage' : (x.read i items).stage = .afterRead (r, e) := congrArg Stage.afterRead hr
  cases e with
  | none => exact ⟨_, hs, rfl, hstage', h.channel⟩
  | some e =>
    obtain ⟨t, ht, htc⟩ := Channel.leads_deliver hcs x.traffic e
    have hhearing := reaches_of_codeRun (x := x.read i items) (by rw [hstage']; rfl) ht
    refine ⟨_, (Relation.ReflTransGen.trans hs hhearing).tail (.heard hstage'), rfl, rfl, ?_⟩
    change t.channel = s.channel.deliver s.callbacks e
    rw [htc, h.channel]

theorem Follows.run {x : Conversation σ} {s : Serving σ} (h : x.Follows s)
    (hcs : s.callbacks.ByCalls) :
    ∃ y t, x.Reaches y ∧ y.stage = .ended t ∧ y.traffic.channel = (s.run x.unread).channel := by
  induction hun : x.unread generalizing x s with
  | nil => exact h.finish hcs fun _ ↦ hun
  | cons i items ih =>
    by_cases hread : s.reception = .reading
    · obtain ⟨u, hu, hitems, hfollows⟩ := h.receive hcs hread hun
      obtain ⟨y, t, hy, hended, hchannel⟩ :=
        ih hfollows (by rw [Serving.receive_eq]; exact hcs) hitems
      exact ⟨y, t, hu.trans hy, hended, hchannel⟩
    · rw [Serving.run_of_ne_reading hread]
      exact h.finish hcs fun hr ↦ absurd hr hread

/-- To serve a channel, or to refuse it, is one way for a conversation to go. -/
theorem reaches_of_serve {r : ChannelRoute σ} (hr : r.ByCalls) (c : Channel σ) (n : Nat)
    (items : List Incoming) :
    ∃ x t, (start c n items).Reaches x ∧ x.stage = .ended t ∧
      match r.serve (Traffic.start c n).channel with
      | .ok s => x.traffic.channel = (s.run items).channel
      | .error d => x.traffic.channel = d := by
  obtain ⟨t, ht, htc⟩ := hr.leads_run (.start c n)
  have hopening := reaches_of_codeRun (x := start c n items) rfl ht
  by_cases hok : (r.run ⟨(Traffic.start c n).channel, {}⟩).1 = .ok ()
  · rw [ChannelRoute.serve_of_ok hok]
    have hfollows : Follows
        { traffic := t, unread := items, stage := .between .reading, isServed := true }
        { channel := (r.run ⟨(Traffic.start c n).channel, {}⟩).2.channel
          callbacks := (r.run ⟨(Traffic.start c n).channel, {}⟩).2.callbacks } := ⟨rfl, htc⟩
    obtain ⟨y, u, hy, hended, hchannel⟩ := hfollows.run (hr.callbacks _)
    exact ⟨y, u, (hopening.tail (.opened rfl)).trans hy, hended, hchannel⟩
  · rw [ChannelRoute.serve_of_ne_ok hok]
    refine ⟨_, t, hopening.tail (.refused rfl), rfl, ?_⟩
    rw [leave_channel]
    exact congrArg Channel.sendClose htc

theorem reaches_of_connect {r : ChannelRoute σ} (hr : r.ByCalls) (c : Channel σ) (n : Nat)
    (items : List Incoming) (hrefused : (r.run ⟨(Traffic.start c n).channel, {}⟩).1 ≠ .ok ()) :
    ∃ x t, (start c n items).Reaches x ∧ x.stage = .ended t ∧ x.traffic.AtRest ∧
      (∀ f, x.traffic.writer ≠ .failed f) ∧ (Traffic.start c n).CodeRun t ∧
      t.channel = (r.run ⟨(Traffic.start c n).channel, {}⟩).2.channel ∧
      (Link.connect r (Traffic.start c n).channel).1 = x.traffic.written.map .frame := by
  obtain ⟨t, ht, htc⟩ := hr.leads_run (.start c n)
  have hleft := (reaches_of_codeRun (x := start c n items) rfl ht).tail (.refused rfl)
  have hcode : (Traffic.start c n).CodeRun (t.call .close) := ht.tail (.call t .close)
  obtain ⟨hwriter, -, hwritten⟩ := hcode.writer_side
  obtain ⟨u, hu, hrest, hok, -, hsent⟩ :=
    ((Traffic.sound_start c n).reaches hcode.reaches).exists_flush (.inr hwriter)
  refine ⟨_, t, Relation.ReflTransGen.trans hleft (reaches_of_writerRun hu), rfl, hrest, hok, ht,
    htc, ?_⟩
  have hchannel : (t.call .close).channel = (r.run ⟨(Traffic.start c n).channel, {}⟩).2.channel.sendClose :=
    (leave_channel { traffic := t, unread := items }).trans (congrArg Channel.sendClose htc)
  rw [Link.connect, ChannelRoute.serve_of_ne_ok hrefused, hsent, hwritten, hchannel]
  rfl

end Conversation

end WebDispatch
