import WebDispatch.Channel.Serving

namespace WebDispatch

variable {σ : Type}

def Event.isClose : Event → Bool
  | close _ => true
  | _ => false

namespace Incoming

/-- Closing frames and errors, behind which nothing is read. -/
def isLast : Incoming → Bool
  | close _ | failure _ => true
  | _ => false

def message? : Incoming → Option Event
  | text s => some (.text s)
  | binary bs => some (.binary [bs])
  | _ => none

/-- What the channel is told at its end, which came with an item or without. -/
def ending : Option Incoming → List Event
  | some (close reason) => [.close reason]
  | some (failure message) => [.error message, .close none]
  | _ => [.close none]

def events (items : List Incoming) : List Event :=
  (items.takeWhile fun i ↦ !i.isLast).filterMap message? ++ ending (items.find? isLast)

theorem events_cons_of_isLast {i : Incoming} (h : i.isLast = true) (items : List Incoming) :
    events (i :: items) = ending (some i) := by
  simp [events, h]

theorem events_cons {i : Incoming} (h : i.isLast = false) (items : List Incoming) :
    events (i :: items) = i.message?.toList ++ events items := by
  cases hm : i.message? <;> simp [events, h, hm]

theorem isClose_of_message? {i : Incoming} {e : Event} (h : i.message? = some e) :
    e.isClose = false := by
  cases i <;> cases h <;> rfl

theorem ending_eq (last : Option Incoming) :
    ∃ front reason, ending last = front ++ [.close reason] ∧ ∀ e ∈ front, e.isClose = false := by
  unfold ending
  split
  · exact ⟨[], _, rfl, by simp⟩
  · exact ⟨[.error _], none, rfl, by simp [Event.isClose]⟩
  · exact ⟨[], none, rfl, by simp⟩

theorem close_is_last (items : List Incoming) :
    ∃ front reason, events items = front ++ [.close reason] ∧ ∀ e ∈ front, e.isClose = false := by
  obtain ⟨front, reason, hends, hfront⟩ := ending_eq (items.find? isLast)
  refine ⟨(items.takeWhile fun i ↦ !i.isLast).filterMap message? ++ front, reason, ?_, ?_⟩
  · rw [events, hends, List.append_assoc]
  · intro e he
    rcases List.mem_append.1 he with hmessage | hend
    · obtain ⟨i, -, hi⟩ := List.mem_filterMap.1 hmessage
      exact isClose_of_message? hi
    · exact hfront e hend

end Incoming

namespace Reception

/-- The events still to come on a connection that was read so far. -/
def events : Reception → List Incoming → List Event
  | reading, items => Incoming.events items
  | r, _ => r.lastEvent?.toList

theorem receive_of_ne_reading {r : Reception} (h : r ≠ reading) (i : Incoming) :
    r.receive i = (r, none) := by
  cases r with
  | reading => exact absurd rfl h
  | closed | broken => rfl

theorem events_nil (r : Reception) : r.events [] = r.lastEvent?.toList := by
  cases r <;> rfl

theorem events_cons (r : Reception) (i : Incoming) (items : List Incoming) :
    r.events (i :: items) = (r.receive i).2.toList ++ (r.receive i).1.events items := by
  cases r with
  | reading =>
    cases i with
    | text s | binary bs | ping bs | pong bs => exact Incoming.events_cons rfl items
    | close reason | failure message => exact Incoming.events_cons_of_isLast rfl items
  | closed | broken => rfl

theorem receive_of_isLast (r : Reception) {i : Incoming} (h : i.isLast = true) :
    (r.receive i).1 ≠ reading := by
  cases r <;> cases i <;> simp_all [receive, Incoming.isLast]

end Reception

namespace Channel

theorem sendClose_app (c : Channel σ) : c.sendClose.app = c.app := by
  unfold sendClose close enqueue
  cases c.outbox.offer .close <;> rfl

theorem foldl_deliver_log {cs : Callbacks σ} {log : σ → List Event} {es : List Event}
    (h : ∀ e ∈ es, ∀ c, log (Channel.deliver cs c e).app = log c.app ++ [e]) (c : Channel σ) :
    log (es.foldl (Channel.deliver cs) c).app = log c.app ++ es := by
  induction es generalizing c with
  | nil => simp
  | cons e es ih =>
    rw [List.foldl_cons, ih fun e he ↦ h e (List.mem_cons_of_mem _ he), h e List.mem_cons_self,
      List.append_assoc, List.singleton_append]

end Channel

namespace Serving

theorem deliver_eq (s : Serving σ) (e : Option Event) :
    s.deliver e = { s with channel := e.toList.foldl (Channel.deliver s.callbacks) s.channel } := by
  cases e <;> rfl

theorem receive_eq (s : Serving σ) (i : Incoming) :
    s.receive i =
      { s with
        reception := (s.reception.receive i).1
        channel := (s.reception.receive i).2.toList.foldl (Channel.deliver s.callbacks) s.channel } :=
  deliver_eq _ _

theorem receive_of_ne_reading {s : Serving σ} (h : s.reception ≠ .reading) (i : Incoming) :
    s.receive i = s := by
  rw [receive_eq, Reception.receive_of_ne_reading h]
  rfl

theorem run_cons (s : Serving σ) (i : Incoming) (items : List Incoming) :
    s.run (i :: items) = (s.receive i).run items := rfl

theorem run_of_ne_reading {s : Serving σ} (h : s.reception ≠ .reading) (items : List Incoming) :
    s.run items = s.run [] := by
  induction items with
  | nil => rfl
  | cons i items ih => rw [run_cons, receive_of_ne_reading h, ih]

theorem run_channel (s : Serving σ) (items : List Incoming) :
    (s.run items).channel =
      ((s.reception.events items).foldl (Channel.deliver s.callbacks) s.channel).sendClose := by
  induction items generalizing s with
  | nil =>
    rw [Reception.events_nil]
    exact congrArg (fun s ↦ s.channel.sendClose) (deliver_eq s s.reception.lastEvent?)
  | cons i items ih => rw [run_cons, ih, receive_eq, Reception.events_cons, List.foldl_append]

/-- Items behind the last that is read make no difference. -/
theorem run_append_of_isLast (s : Serving σ) {items : List Incoming} {i : Incoming}
    (hi : i ∈ items) (hlast : i.isLast = true) (more : List Incoming) :
    s.run (items ++ more) = s.run items := by
  induction items generalizing s with
  | nil => cases hi
  | cons j items ih =>
    rw [List.cons_append, run_cons, run_cons]
    rcases List.mem_cons.1 hi with rfl | hi
    · have hend : (s.receive i).reception ≠ .reading := by
        rw [receive_eq]
        exact s.reception.receive_of_isLast hlast
      rw [run_of_ne_reading hend, ← run_of_ne_reading hend items]
    · exact ih (s.receive j) hi

end Serving

namespace ChannelRoute

theorem serve_of_ok {r : ChannelRoute σ} {c : Channel σ} (h : (r.run ⟨c, {}⟩).1 = .ok ()) :
    r.serve c =
      .ok { channel := (r.run ⟨c, {}⟩).2.channel, callbacks := (r.run ⟨c, {}⟩).2.callbacks } := by
  rw [serve, Run.contained]
  cases hr : r.run ⟨c, {}⟩ with
  | mk outcome o =>
    rw [hr] at h
    cases h
    rfl

theorem serve_of_ne_ok {r : ChannelRoute σ} {c : Channel σ} (h : (r.run ⟨c, {}⟩).1 ≠ .ok ()) :
    r.serve c = .error (r.run ⟨c, {}⟩).2.channel.sendClose := by
  rw [serve, Run.contained]
  cases hr : r.run ⟨c, {}⟩ with
  | mk outcome o =>
    cases outcome with
    | ok a => exact absurd (congrArg Prod.fst hr) h
    | error f => rfl
    | panic p => rfl

theorem serve_eq_ok_iff {r : ChannelRoute σ} {c : Channel σ} {s : Serving σ} :
    r.serve c = .ok s ↔ (r.run ⟨c, {}⟩).1 = .ok () ∧
      s = { channel := (r.run ⟨c, {}⟩).2.channel, callbacks := (r.run ⟨c, {}⟩).2.callbacks } := by
  by_cases h : (r.run ⟨c, {}⟩).1 = .ok ()
  · rw [serve_of_ok h]
    exact ⟨fun hs ↦ ⟨h, (Except.ok.inj hs).symm⟩, fun ⟨_, hs⟩ ↦ congrArg Except.ok hs.symm⟩
  · rw [serve_of_ne_ok h]
    exact ⟨nofun, fun ⟨hok, _⟩ ↦ absurd hok h⟩

theorem serve_eq_error {r : ChannelRoute σ} {c d : Channel σ} (hd : r.serve c = .error d) :
    d = (r.run ⟨c, {}⟩).2.channel.sendClose := by
  by_cases h : (r.run ⟨c, {}⟩).1 = .ok ()
  · cases (serve_of_ok h).symm.trans hd
  · rw [serve_of_ne_ok h] at hd
    exact (Except.error.inj hd).symm

end ChannelRoute

end WebDispatch
