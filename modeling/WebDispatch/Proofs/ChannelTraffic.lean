import Mathlib.Logic.Relation
import WebDispatch.Channel.Serving

namespace WebDispatch

variable {σ : Type}

namespace Outbox

theorem offer_of_not_open {o : Outbox} (h : o.isOpen = false) (f : Frame) :
    o.offer f = .error .channelClosed := by
  simp [offer, h]

theorem offer_of_full {o : Outbox} (h : o.isOpen = true) (hf : o.capacity ≤ o.queued.length)
    (f : Frame) : o.offer f = .error (.channelFull o.capacity) := by
  simp [offer, h, hf]

theorem offer_of_room {o : Outbox} (h : o.isOpen = true) (hr : o.queued.length < o.capacity)
    (f : Frame) : o.offer f = .ok { o with queued := o.queued ++ [f] } := by
  simp [offer, h, Nat.not_le.2 hr]

end Outbox

/-- What becomes of a payload: texts and bytes go as they are, and a structured one as the text that
the serializer makes of it, unless that fails. -/
inductive Payload.Framed (serializer : Serializer) : Payload → Except Error Frame → Prop
  | text (s : String) : Framed serializer (.text s) (.ok (.text s))
  | binary (bs : Bytes) : Framed serializer (.binary bs) (.ok (.binary bs))
  | structured {v : Json} {s : String} (h : serializer.serialize v = .ok s) :
      Framed serializer (.structured v) (.ok (.text s))
  | unserializable {v : Json} {e : Error} (h : serializer.serialize v = .error e) :
      Framed serializer (.structured v) (.error e)

theorem Channel.frame_eq_iff {serializer : Serializer} {p : Payload} {r : Except Error Frame} :
    Channel.frame serializer p = r ↔ p.Framed serializer r := by
  constructor
  · rintro rfl
    cases p with
    | text s => exact .text s
    | binary bs => exact .binary bs
    | structured v =>
      cases h : serializer.serialize v with
      | ok s =>
        rw [frame, h]
        exact .structured h
      | error e =>
        rw [frame, h]
        exact .unserializable h
  · intro h
    cases h with
    | text s => rfl
    | binary bs => rfl
    | structured h =>
      rw [frame, h]
      rfl
    | unserializable h =>
      rw [frame, h]
      rfl

inductive Call
  | send (p : Payload)
  | close

namespace Call

def frame (serializer : Serializer) : Call → Except Error Frame
  | send p => Channel.frame serializer p
  | close => .ok .close

def run : Call → Run (Channel σ) Unit
  | send p => Run.tryChannel fun c ↦ c.send p
  | close => Run.tryChannel Channel.close

theorem run_of_frame_error {k : Call} {c : Channel σ} {e : Error}
    (h : k.frame c.serializer = .error e) : k.run c = (.error (.framework e), c) := by
  cases k with
  | send p =>
    have hp : Channel.frame c.serializer p = .error e := h
    simp only [run, Run.tryChannel, Channel.send, hp]
    rfl
  | close => cases h

theorem run_of_frame_ok {k : Call} {c : Channel σ} {f : Frame} (h : k.frame c.serializer = .ok f) :
    k.run c =
      match c.outbox.offer f with
      | .ok outbox => (.ok (), { c with outbox })
      | .error e => (.error (.framework e), c) := by
  have he : k.run c = Run.tryChannel (fun c ↦ c.enqueue f) c := by
    cases k with
    | send p =>
      have hp : Channel.frame c.serializer p = .ok f := h
      simp only [run, Run.tryChannel, Channel.send, hp]
      rfl
    | close =>
      obtain rfl : Frame.close = f := Except.ok.inj h
      rfl
  rw [he, Run.tryChannel, Channel.enqueue]
  cases c.outbox.offer f <;> rfl

end Call

inductive Writer
  | waiting
  | sending (f : Frame)
  | stopped
  | failed (f : Frame)

namespace Writer

def isRunning : Writer → Bool
  | waiting | sending _ => true
  | stopped | failed _ => false

/-- The frame that was taken and is not written. -/
def inHand : Writer → List Frame
  | sending f | failed f => [f]
  | waiting | stopped => []

end Writer

/-- A channel and its writer, with the frames that got as far as the queue, the writer and the socket. -/
structure Traffic (σ : Type) where
  channel : Channel σ
  writer : Writer := .waiting
  accepted : List Frame := []
  taken : List Frame := []
  written : List Frame := []

namespace Traffic

def start (c : Channel σ) (capacity : Nat) : Traffic σ where
  channel := { c with outbox := { capacity } }

def queue (t : Traffic σ) : List Frame :=
  t.channel.outbox.queued

def withOutbox (t : Traffic σ) (outbox : Outbox) : Traffic σ :=
  { t with channel := { t.channel with outbox } }

def queuedBy (t : Traffic σ) (k : Call) : List Frame :=
  match k.frame t.channel.serializer, (k.run t.channel).1 with
  | .ok f, .ok () => [f]
  | _, _ => []

def enqueue (t : Traffic σ) (f : Frame) : Traffic σ :=
  { t.withOutbox { t.channel.outbox with queued := t.queue ++ [f] } with
    accepted := t.accepted ++ [f] }

def call (t : Traffic σ) (k : Call) : Traffic σ :=
  { t with channel := (k.run t.channel).2, accepted := t.accepted ++ t.queuedBy k }

inductive CodeStep : Traffic σ → Traffic σ → Prop
  | call (t : Traffic σ) (k : Call) : CodeStep t (t.call k)
  | compute (t : Traffic σ) (app : σ) :
      CodeStep t { t with channel := { t.channel with app } }

def take (t : Traffic σ) (f : Frame) (fs : List Frame) : Traffic σ :=
  { t.withOutbox { t.channel.outbox with queued := fs } with
    writer := .sending f
    taken := t.taken ++ [f] }

def finish (t : Traffic σ) (f : Frame) : Traffic σ :=
  { t with writer := .waiting, written := t.written ++ [f] }

def stop (t : Traffic σ) : Traffic σ :=
  { t.withOutbox t.channel.outbox.shut with
    writer := .stopped
    written := t.written ++ [.close] }

def fail (t : Traffic σ) (f : Frame) : Traffic σ :=
  { t.withOutbox t.channel.outbox.shut with writer := .failed f }

inductive WriterStep (t : Traffic σ) : Traffic σ → Prop
  | take {f : Frame} {fs : List Frame} (idle : t.writer = .waiting) (oldest : t.queue = f :: fs) :
      WriterStep t (t.take f fs)
  | finish {f : Frame} (busy : t.writer = .sending f) (goesOn : f ≠ .close) :
      WriterStep t (t.finish f)
  | stop (busy : t.writer = .sending .close) : WriterStep t t.stop
  | fail {f : Frame} (busy : t.writer = .sending f) : WriterStep t (t.fail f)

inductive Step (t t' : Traffic σ) : Prop
  | code (h : CodeStep t t')
  | writer (h : WriterStep t t')

def Reaches : Traffic σ → Traffic σ → Prop :=
  Relation.ReflTransGen Step

/-- What holds of a channel with a queue of a given capacity at all times. -/
structure Sound (n : Nat) (t : Traffic σ) : Prop where
  capacity : t.channel.outbox.capacity = n
  bounded : t.queue.length ≤ n
  isOpen : t.channel.outbox.isOpen = t.writer.isRunning
  inHand : t.taken = t.written ++ t.writer.inHand
  ordered : t.taken <+: t.accepted
  kept : t.writer.isRunning = true → t.taken ++ t.queue = t.accepted
  goesOn : t.writer ≠ .stopped → .close ∉ t.written
  stopped : t.writer = .stopped → ∃ front, .close ∉ front ∧ t.written = front ++ [.close]

theorem sound_start (c : Channel σ) (n : Nat) : (start c n).Sound n where
  capacity := rfl
  bounded := Nat.zero_le n
  isOpen := rfl
  inHand := rfl
  ordered := List.prefix_rfl
  kept := fun _ ↦ rfl
  goesOn := fun _ ↦ List.not_mem_nil
  stopped := fun h ↦ by cases h

inductive CallEnds (n : Nat) (t : Traffic σ) (k : Call) : Prop
  | queued {f : Frame} (frame : k.frame t.channel.serializer = .ok f)
      (running : t.writer.isRunning = true) (room : t.queue.length < n)
      (run : k.run t.channel = (.ok (), (t.enqueue f).channel)) (call : t.call k = t.enqueue f)
  | unserializable {e : Error} (frame : k.frame t.channel.serializer = .error e)
      (run : k.run t.channel = (.error (.framework e), t.channel)) (call : t.call k = t)
  | full {f : Frame} (frame : k.frame t.channel.serializer = .ok f)
      (running : t.writer.isRunning = true) (full : t.queue.length = n)
      (run : k.run t.channel = (.error (.framework (.channelFull n)), t.channel))
      (call : t.call k = t)
  | closed {f : Frame} (frame : k.frame t.channel.serializer = .ok f)
      (running : t.writer.isRunning = false)
      (run : k.run t.channel = (.error (.framework .channelClosed), t.channel))
      (call : t.call k = t)

theorem call_of_error {t : Traffic σ} {k : Call} {e : Failure}
    (h : k.run t.channel = (.error e, t.channel)) : t.call k = t := by
  have hq : t.queuedBy k = [] := by
    unfold queuedBy
    rw [h]
    split <;> simp_all
  rw [call, h, hq, List.append_nil]

theorem call_of_ok {t : Traffic σ} {k : Call} {f : Frame}
    (hf : k.frame t.channel.serializer = .ok f)
    (h : k.run t.channel = (.ok (), (t.enqueue f).channel)) : t.call k = t.enqueue f := by
  have hq : t.queuedBy k = [f] := by
    rw [queuedBy, hf, h]
  rw [call, h, hq]
  rfl

theorem Sound.callEnds {n : Nat} {t : Traffic σ} (h : t.Sound n) (k : Call) : t.CallEnds n k := by
  cases hk : k.frame t.channel.serializer with
  | error e =>
    have hr := Call.run_of_frame_error hk
    exact .unserializable hk hr (call_of_error hr)
  | ok f =>
    have hr := Call.run_of_frame_ok hk
    cases hw : t.writer.isRunning with
    | false =>
      rw [Outbox.offer_of_not_open (h.isOpen.trans hw)] at hr
      exact .closed hk hw hr (call_of_error hr)
    | true =>
      by_cases hl : t.queue.length < n
      · rw [Outbox.offer_of_room (h.isOpen.trans hw) (h.capacity.symm ▸ hl)] at hr
        exact .queued hk hw hl hr (call_of_ok hk hr)
      · have hf : t.queue.length = n := Nat.le_antisymm h.bounded (Nat.not_lt.1 hl)
        have hc : t.channel.outbox.capacity ≤ t.channel.outbox.queued.length := by
          rw [h.capacity]
          exact Nat.le_of_eq hf.symm
        rw [Outbox.offer_of_full (h.isOpen.trans hw) hc, h.capacity] at hr
        exact .full hk hw hf hr (call_of_error hr)

theorem Sound.enqueue {n : Nat} {t : Traffic σ} (h : t.Sound n) (hw : t.writer.isRunning = true)
    (hl : t.queue.length < n) (f : Frame) : (t.enqueue f).Sound n where
  capacity := h.capacity
  bounded := by
    have hq : (t.enqueue f).queue = t.queue ++ [f] := rfl
    rw [hq, List.length_append, List.length_singleton]
    exact hl
  isOpen := h.isOpen
  inHand := h.inHand
  ordered := h.ordered.trans (List.prefix_append _ _)
  kept := fun _ ↦ by
    change t.taken ++ (t.queue ++ [f]) = t.accepted ++ [f]
    rw [← List.append_assoc, h.kept hw]
  goesOn := h.goesOn
  stopped := h.stopped

theorem Sound.codeStep {n : Nat} {t t' : Traffic σ} (h : t.Sound n) (hs : CodeStep t t') :
    t'.Sound n := by
  cases hs with
  | call k =>
    cases h.callEnds k with
    | queued frame running room run call => exact call ▸ h.enqueue running room _
    | unserializable frame run call => exact call.symm ▸ h
    | full frame running full run call => exact call.symm ▸ h
    | closed frame running run call => exact call.symm ▸ h
  | compute app =>
    exact ⟨h.capacity, h.bounded, h.isOpen, h.inHand, h.ordered, h.kept, h.goesOn, h.stopped⟩

theorem Sound.kept_of_take {n : Nat} {t : Traffic σ} (h : t.Sound n) {f : Frame} {fs : List Frame}
    (idle : t.writer = .waiting) (oldest : t.queue = f :: fs) :
    t.taken ++ [f] ++ fs = t.accepted := by
  have hk : t.taken ++ f :: fs = t.accepted := oldest ▸ h.kept (by rw [idle]; rfl)
  exact (List.append_assoc ..).trans hk

theorem Sound.take {n : Nat} {t : Traffic σ} (h : t.Sound n) {f : Frame} {fs : List Frame}
    (idle : t.writer = .waiting) (oldest : t.queue = f :: fs) : (t.take f fs).Sound n where
  capacity := h.capacity
  bounded := by
    have hb := h.bounded
    rw [oldest] at hb
    exact Nat.le_of_succ_le hb
  isOpen := h.isOpen.trans (by rw [idle]; rfl)
  inHand := by
    have hw : t.taken = t.written := by simpa [idle, Writer.inHand] using h.inHand
    exact congrArg (· ++ [f]) hw
  ordered := ⟨fs, h.kept_of_take idle oldest⟩
  kept := fun _ ↦ h.kept_of_take idle oldest
  goesOn := fun _ ↦ h.goesOn (by simp [idle])
  stopped := fun hw ↦ by cases hw

theorem Sound.taken_of_sending {n : Nat} {t : Traffic σ} (h : t.Sound n) {f : Frame}
    (busy : t.writer = .sending f) : t.taken = t.written ++ [f] := by
  simpa [busy, Writer.inHand] using h.inHand

theorem Sound.finish {n : Nat} {t : Traffic σ} (h : t.Sound n) {f : Frame}
    (busy : t.writer = .sending f) (goesOn : f ≠ .close) : (t.finish f).Sound n where
  capacity := h.capacity
  bounded := h.bounded
  isOpen := h.isOpen.trans (by rw [busy]; rfl)
  inHand := (h.taken_of_sending busy).trans (List.append_nil _).symm
  ordered := h.ordered
  kept := fun _ ↦ h.kept (by rw [busy]; rfl)
  goesOn := fun _ hmem ↦ by
    rcases List.mem_append.1 hmem with hold | hnew
    · exact h.goesOn (by simp [busy]) hold
    · exact goesOn (List.mem_singleton.1 hnew).symm
  stopped := fun hw ↦ by cases hw

theorem Sound.stop {n : Nat} {t : Traffic σ} (h : t.Sound n) (busy : t.writer = .sending .close) :
    t.stop.Sound n where
  capacity := h.capacity
  bounded := Nat.zero_le n
  isOpen := rfl
  inHand := (h.taken_of_sending busy).trans (List.append_nil _).symm
  ordered := h.ordered
  kept := fun hw ↦ by cases hw
  goesOn := fun hw ↦ absurd rfl hw
  stopped := fun _ ↦ ⟨t.written, h.goesOn (by simp [busy]), rfl⟩

theorem Sound.fail {n : Nat} {t : Traffic σ} (h : t.Sound n) {f : Frame}
    (busy : t.writer = .sending f) : (t.fail f).Sound n where
  capacity := h.capacity
  bounded := Nat.zero_le n
  isOpen := rfl
  inHand := h.taken_of_sending busy
  ordered := h.ordered
  kept := fun hw ↦ by cases hw
  goesOn := fun _ ↦ h.goesOn (by simp [busy])
  stopped := fun hw ↦ by cases hw

theorem Sound.writerStep {n : Nat} {t t' : Traffic σ} (h : t.Sound n) (hs : WriterStep t t') :
    t'.Sound n := by
  cases hs with
  | take idle oldest => exact h.take idle oldest
  | finish busy goesOn => exact h.finish busy goesOn
  | stop busy => exact h.stop busy
  | fail busy => exact h.fail busy

theorem Sound.step {n : Nat} {t t' : Traffic σ} (h : t.Sound n) (hs : Step t t') : t'.Sound n := by
  cases hs with
  | code hs => exact h.codeStep hs
  | writer hs => exact h.writerStep hs

theorem Sound.reaches {n : Nat} {t t' : Traffic σ} (h : t.Sound n) (hr : t.Reaches t') :
    t'.Sound n := by
  induction hr with
  | refl => exact h
  | tail _ hs ih => exact ih.step hs

/-- How far the writer is with a closing frame that it took. -/
inductive Closing (t : Traffic σ) : Prop
  | sending (writer : t.writer = .sending .close) (taken : t.taken = t.written ++ [.close])
  | stopped (writer : t.writer = .stopped) (taken : t.taken = t.written)
  | failed (writer : t.writer = .failed .close) (taken : t.taken = t.written ++ [.close])

theorem Sound.closing {n : Nat} {t : Traffic σ} (h : t.Sound n) (hc : .close ∈ t.taken) :
    t.Closing := by
  have hin := h.inHand
  cases hw : t.writer with
  | waiting =>
    have ht : t.taken = t.written := by simpa [hw, Writer.inHand] using hin
    exact absurd (ht ▸ hc) (h.goesOn (by simp [hw]))
  | sending f =>
    rw [hw] at hin
    rcases List.mem_append.1 (hin ▸ hc) with hold | hnew
    · exact absurd hold (h.goesOn (by simp [hw]))
    · obtain rfl := List.mem_singleton.1 hnew
      exact .sending hw hin
  | stopped => exact .stopped hw (by simpa [hw, Writer.inHand] using hin)
  | failed f =>
    rw [hw] at hin
    rcases List.mem_append.1 (hin ▸ hc) with hold | hnew
    · exact absurd hold (h.goesOn (by simp [hw]))
    · obtain rfl := List.mem_singleton.1 hnew
      exact .failed hw hin

theorem Sound.closing_is_last {n : Nat} {t : Traffic σ} (h : t.Sound n) (hc : .close ∈ t.taken) :
    ∃ front, .close ∉ front ∧ t.taken = front ++ [.close] := by
  cases h.closing hc with
  | sending writer taken => exact ⟨t.written, h.goesOn (by simp [writer]), taken⟩
  | stopped writer taken =>
    obtain ⟨front, hfront, hw⟩ := h.stopped writer
    exact ⟨front, hfront, taken.trans hw⟩
  | failed writer taken => exact ⟨t.written, h.goesOn (by simp [writer]), taken⟩

theorem Closing.taken_of_step {t t' : Traffic σ} (hc : t.Closing) (hs : Step t t') :
    t'.taken = t.taken := by
  cases hs with
  | code hs => cases hs <;> rfl
  | writer hs =>
    cases hs with
    | take idle oldest => cases hc <;> simp_all
    | finish busy goesOn => rfl
    | stop busy => rfl
    | fail busy => rfl

theorem WriterStep.of_sending_close {t t' : Traffic σ} (hs : WriterStep t t')
    (hw : t.writer = .sending .close) : t' = t.stop ∨ t' = t.fail .close := by
  cases hs with
  | take idle oldest => cases hw.symm.trans idle
  | finish busy goesOn => exact absurd (Writer.sending.inj (busy.symm.trans hw)) goesOn
  | stop busy => exact .inl rfl
  | fail busy =>
    obtain rfl := Writer.sending.inj (busy.symm.trans hw)
    exact .inr rfl

/-- Once a closing frame is taken, no frame is any more. -/
theorem Sound.taken_of_reaches {n : Nat} {t t' : Traffic σ} (h : t.Sound n)
    (hc : .close ∈ t.taken) (hr : t.Reaches t') : t'.taken = t.taken := by
  induction hr with
  | refl => rfl
  | @tail u v hr hs ih =>
    have hu : u.Closing := (h.reaches hr).closing (ih ▸ hc)
    exact (hu.taken_of_step hs).trans ih

theorem Sound.outcome_iff {n : Nat} {t : Traffic σ} (h : t.Sound n) {k : Call} {f : Frame}
    (hf : k.frame t.channel.serializer = .ok f) :
    ((k.run t.channel).1 = .error (.framework (.channelFull n)) ↔
      t.writer.isRunning = true ∧ t.queue.length = n) ∧
    ((k.run t.channel).1 = .error (.framework .channelClosed) ↔ t.writer.isRunning = false) ∧
    ((k.run t.channel).1 = .ok () ↔ t.writer.isRunning = true ∧ t.queue.length < n) := by
  cases h.callEnds k with
  | queued frame running room run call =>
    rw [run]
    exact ⟨by simp [Nat.ne_of_lt room], by simp [running], by simp [running, room]⟩
  | unserializable frame run call => cases frame.symm.trans hf
  | full frame running full run call =>
    rw [run]
    exact ⟨by simp [running, full], by simp [running], by simp [full]⟩
  | closed frame running run call =>
    rw [run]
    exact ⟨by simp [running], by simp [running], by simp [running]⟩

theorem Sound.queued_of_ok {n : Nat} {t : Traffic σ} (h : t.Sound n) {k : Call} {f : Frame}
    (hf : k.frame t.channel.serializer = .ok f) (hr : (k.run t.channel).1 = .ok ()) :
    (k.run t.channel).2.outbox.queued = t.queue ++ [f] ∧
      (t.call k).accepted = t.accepted ++ [f] := by
  cases h.callEnds k with
  | @queued g frame running room run call =>
    obtain rfl : g = f := Except.ok.inj (frame.symm.trans hf)
    rw [run, call]
    exact ⟨rfl, rfl⟩
  | unserializable frame run call => cases frame.symm.trans hf
  | full frame running full run call => cases (congrArg Prod.fst run).symm.trans hr
  | closed frame running run call => cases (congrArg Prod.fst run).symm.trans hr

theorem Sound.unchanged_of_ne_ok {n : Nat} {t : Traffic σ} (h : t.Sound n) {k : Call}
    (hr : (k.run t.channel).1 ≠ .ok ()) : (k.run t.channel).2 = t.channel ∧ t.call k = t := by
  cases h.callEnds k with
  | queued frame running room run call => exact absurd (congrArg Prod.fst run) hr
  | unserializable frame run call => exact ⟨congrArg Prod.snd run, call⟩
  | full frame running full run call => exact ⟨congrArg Prod.snd run, call⟩
  | closed frame running run call => exact ⟨congrArg Prod.snd run, call⟩

theorem Sound.isRunning {n : Nat} {t : Traffic σ} (h : t.Sound n) (hfail : ∀ f, t.writer ≠ .failed f)
    (hclose : .close ∉ t.taken) : t.writer.isRunning = true := by
  cases hw : t.writer with
  | waiting => rfl
  | sending f => rfl
  | stopped =>
    obtain ⟨front, -, hwritten⟩ := h.stopped hw
    refine absurd ?_ hclose
    rw [h.inHand, hwritten]
    simp
  | failed f => exact absurd hw (hfail f)

/-- For user code and a writer that work at the same time, in any order of their steps: the queue keeps
to its capacity. A call whose payload does not serialize fails with the serializer's error; of the others,
those fail with a full queue that find the writer running and the queue at its capacity, and those with a
closed channel that find the writer at its end. A call that fails changes nothing, and any other queues
its frame. The frames written and those queued are the ones accepted, in the order of their acceptance,
unless the transport failed or a closing frame was taken; a frame whose writing is under way is in the
writer's hand, between the two. A closing frame that was taken is the last ever taken; to write it, or to
fail at it, is all that the writer still does. -/
theorem bounded_ordered_kept (c : Channel σ) (n : Nat) {t : Traffic σ} (h : (start c n).Reaches t) :
    t.queue.length ≤ n ∧
    (∀ p r, (Call.send p).frame t.channel.serializer = r ↔ p.Framed t.channel.serializer r) ∧
    Call.close.frame t.channel.serializer = .ok .close ∧
    (∀ k : Call,
      (∀ e, k.frame t.channel.serializer = .error e →
        k.run t.channel = (.error (.framework e), t.channel)) ∧
      (∀ f, k.frame t.channel.serializer = .ok f →
        ((k.run t.channel).1 = .error (.framework (.channelFull n)) ↔
          t.writer.isRunning = true ∧ t.queue.length = n) ∧
        ((k.run t.channel).1 = .error (.framework .channelClosed) ↔ t.writer.isRunning = false) ∧
        ((k.run t.channel).1 = .ok () ↔ t.writer.isRunning = true ∧ t.queue.length < n) ∧
        ((k.run t.channel).1 = .ok () → (k.run t.channel).2.outbox.queued = t.queue ++ [f] ∧
          (t.call k).accepted = t.accepted ++ [f])) ∧
      ((k.run t.channel).1 ≠ .ok () → (k.run t.channel).2 = t.channel ∧ t.call k = t)) ∧
    ((∀ f, t.writer ≠ .failed f) → .close ∉ t.taken →
      t.written ++ t.writer.inHand ++ t.queue = t.accepted ∧
      (t.writer = .waiting → t.written ++ t.queue = t.accepted)) ∧
    (.close ∈ t.taken → (∃ front, .close ∉ front ∧ t.taken = front ++ [.close]) ∧
      ∀ t', t.Reaches t' → t'.taken = t.taken ∧ t'.Closing ∧
        (t'.writer = .sending .close →
          ∀ t'', WriterStep t' t'' ↔ t'' = t'.stop ∨ t'' = t'.fail .close)) := by
  have hs := (sound_start c n).reaches h
  refine ⟨hs.bounded, fun p r ↦ Channel.frame_eq_iff, rfl,
    fun k ↦ ⟨fun e ↦ Call.run_of_frame_error, fun f hf ↦ ?_, hs.unchanged_of_ne_ok⟩,
    fun hfail hclose ↦ ?_, fun hc ↦ ⟨hs.closing_is_last hc, fun t' hr ↦ ?_⟩⟩
  · obtain ⟨hfull, hclosed, hok⟩ := hs.outcome_iff hf
    exact ⟨hfull, hclosed, hok, hs.queued_of_ok hf⟩
  · have hkept : t.written ++ t.writer.inHand ++ t.queue = t.accepted := by
      rw [← hs.inHand]
      exact hs.kept (hs.isRunning hfail hclose)
    refine ⟨hkept, fun hw ↦ ?_⟩
    rwa [hw, Writer.inHand, List.append_nil] at hkept
  · have ht := hs.taken_of_reaches hc hr
    refine ⟨ht, (hs.reaches hr).closing (ht ▸ hc), fun hw t'' ↦ ⟨fun hs ↦ hs.of_sending_close hw, ?_⟩⟩
    rintro (rfl | rfl)
    · exact .stop hw
    · exact .fail hw

/-! ### A queue for one frame -/

def narrowChannel : Channel Unit where
  id := "c"
  path := "/"
  params := []
  serializer := .json
  outbox := { capacity := 1 }
  app := ()

theorem bounded_ordered_kept_of_narrow :
    ∃ t : Traffic Unit, (start narrowChannel 1).Reaches t ∧ t.writer = .sending (.text "a") ∧
      (Call.close.run t.channel).1 = .error (.framework (.channelFull 1)) ∧
      t.written ++ t.writer.inHand ++ t.queue = [.text "a", .text "b"] := by
  let a := (start narrowChannel 1).call (.send (.text "a"))
  let t := (a.take (.text "a") []).call (.send (.text "b"))
  have ha : (start narrowChannel 1).Reaches a := .single (.code (.call _ _))
  have ht : (start narrowChannel 1).Reaches t :=
    (ha.tail (.writer (.take rfl rfl))).tail (.code (.call _ _))
  obtain ⟨-, -, hframe, hcalls, hkept, -⟩ := bounded_ordered_kept narrowChannel 1 ht
  refine ⟨t, ht, rfl, ((hcalls .close).2.1 .close hframe).1.2 ⟨rfl, rfl⟩, ?_⟩
  exact (hkept (fun f hf ↦ by cases hf) (by simp [t, a]; decide)).1

end Traffic

end WebDispatch
