import WebDispatch.Proofs.ChannelCode

namespace WebDispatch

variable {σ : Type}

theorem reassemble_eq_flatten (pieces : List Bytes) : reassemble pieces = pieces.flatten := by
  have hjoin : pieces.foldl (· ++ ·) [] = [] ++ (pieces.map id).flatten :=
    List.foldl_append_eq_append
  rw [List.map_id, List.nil_append] at hjoin
  match pieces with
  | [] => rfl
  | [piece] => simp [reassemble]
  | _ :: _ :: _ => exact hjoin

inductive Heard
  | text (s : String)
  | binary (bs : Bytes)
  | close (reason : Option CloseReason)
  | error (message : String)
  deriving DecidableEq

namespace Heard

def isError : Heard → Bool
  | error _ => true
  | _ => false

def ofEvent : Event → Heard
  | .text s => text s
  | .binary pieces => binary pieces.flatten
  | .close reason => close reason
  | .error message => error message

end Heard

/-- A callback is called and queues frames while it runs, or its reply is queued. -/
inductive Act
  | call (h : Heard) (sent : List Frame)
  | reply (f : Frame)

namespace Act

def heard? : Act → Option Heard
  | call h _ => some h
  | reply _ => none

def frames : Act → List Frame
  | call _ sent => sent
  | reply f => [f]

end Act

/-- The frames behind those that were queued before. -/
def Channel.queuedSince (c before : Channel σ) : List Frame :=
  c.outbox.queued.drop before.outbox.queued.length

def Outcome.quiet : Outcome Unit → Outcome Unit
  | .error _ => .ok ()
  | o => o

theorem Run.ignoringError_apply {s : Type} (m : Run s Unit) (x : s) :
    m.ignoringError x = ((m x).1.quiet, (m x).2) := by
  simp only [ignoringError, bind_apply, attempt]
  rcases m x with ⟨_ | _ | _, y⟩ <;> rfl

namespace Callbacks

variable {cs : Callbacks σ} {d : Deliver σ}

/-! ### One event -/

def hears (cs : Callbacks σ) : Event → Bool
  | .text _ => cs.onText.isSome
  | .binary _ => cs.onBinary.isSome
  | .close _ => cs.onClose.isSome
  | .error _ => cs.onError.isSome

def answer? (cs : Callbacks σ) (d : Deliver σ) : Event → Option (Run (Channel σ) Reply)
  | .text s => cs.onText.map fun f ↦ f d s
  | .binary pieces => cs.onBinary.map fun f ↦ f d pieces.flatten
  | _ => none

def notice? (cs : Callbacks σ) (d : Deliver σ) : Event → Option (Run (Channel σ) Unit)
  | .close reason => cs.onClose.map fun f ↦ f d reason
  | .error message => cs.onError.map fun f ↦ f d message
  | _ => none

/-- What the delivery of an event comes to: the acts in their order, the outcome, and the channel
that is left. -/
inductive Handled (cs : Callbacks σ) (d : Deliver σ) :
    Channel σ → Event → List Act → Outcome Unit → Channel σ → Prop
  | unheard {c : Channel σ} {e : Event} (h : cs.hears e = false) : Handled cs d c e [] (.ok ()) c
  | noticed {c c' : Channel σ} {e : Event} {m : Run (Channel σ) Unit} {o : Outcome Unit}
      (h : cs.notice? d e = some m) (run : m c = (o, c')) :
      Handled cs d c e [.call (.ofEvent e) (c'.queuedSince c)] o.quiet c'
  | unanswered {c c' : Channel σ} {e : Event} {m : Run (Channel σ) Reply}
      (h : cs.answer? d e = some m) (run : m c = (.ok none, c')) :
      Handled cs d c e [.call (.ofEvent e) (c'.queuedSince c)] (.ok ()) c'
  | answered {c c' : Channel σ} {e : Event} {m : Run (Channel σ) Reply} {p : Payload} {f : Frame}
      (h : cs.answer? d e = some m) (run : m c = (.ok (some p), c'))
      (frame : Channel.frame c'.serializer p = .ok f) (isOpen : c'.outbox.isOpen = true)
      (room : c'.outbox.queued.length < c'.outbox.capacity) :
      Handled cs d c e [.call (.ofEvent e) (c'.queuedSince c), .reply f] (.ok ())
        { c' with outbox.queued := c'.outbox.queued ++ [f] }
  | dropped {c c' : Channel σ} {e : Event} {m : Run (Channel σ) Reply} {p : Payload}
      (h : cs.answer? d e = some m) (run : m c = (.ok (some p), c'))
      (cause : (∃ error, Channel.frame c'.serializer p = .error error) ∨
        c'.outbox.isOpen = false ∨ c'.outbox.capacity ≤ c'.outbox.queued.length) :
      Handled cs d c e [.call (.ofEvent e) (c'.queuedSince c)] (.ok ()) c'
  | failed {c c' c'' : Channel σ} {e : Event} {m : Run (Channel σ) Reply} {f : Failure}
      {acts : List Act} {o : Outcome Unit}
      (h : cs.answer? d e = some m) (run : m c = (.error f, c'))
      (report : Handled cs d c' (.error f.message) acts o c'') :
      Handled cs d c e (.call (.ofEvent e) (c'.queuedSince c) :: acts) o c''
  | panicked {c c' : Channel σ} {e : Event} {m : Run (Channel σ) Reply} {p : Panic}
      (h : cs.answer? d e = some m) (run : m c = (.panic p, c')) :
      Handled cs d c e [.call (.ofEvent e) (c'.queuedSince c)] (.panic p) c'

theorem hears_eq (cs : Callbacks σ) (d : Deliver σ) (e : Event) :
    cs.hears e = ((cs.answer? d e).isSome || (cs.notice? d e).isSome) := by
  cases e <;> simp [hears, answer?, notice?]

theorem unheard_or_call (cs : Callbacks σ) (d : Deliver σ) (e : Event) :
    cs.hears e = false ∨ (∃ m, cs.answer? d e = some m) ∨ ∃ m, cs.notice? d e = some m := by
  rw [cs.hears_eq d e, ← Option.isSome_iff_exists, ← Option.isSome_iff_exists]
  cases (cs.answer? d e).isSome <;> cases (cs.notice? d e).isSome <;> decide

theorem deliverWith_of_unheard {e : Event} (h : cs.hears e = false) :
    cs.deliverWith d e = pure () := by
  cases e with
  | text s =>
    have hnone : cs.onText = none := by simpa [hears] using h
    rw [deliverWith, hnone]
  | binary pieces =>
    have hnone : cs.onBinary = none := by simpa [hears] using h
    rw [deliverWith, hnone]
  | close reason =>
    have hnone : cs.onClose = none := by simpa [hears] using h
    rw [deliverWith, hnone]
  | error message =>
    have hnone : cs.onError = none := by simpa [hears] using h
    rw [deliverWith, reportError, hnone]

theorem deliverWith_of_notice {e : Event} {m : Run (Channel σ) Unit}
    (h : cs.notice? d e = some m) : cs.deliverWith d e = m.ignoringError := by
  cases e with
  | text s => cases h
  | binary pieces => cases h
  | close reason =>
    obtain ⟨f, hf, rfl⟩ := Option.map_eq_some_iff.1 h
    rw [deliverWith, hf]
  | error message =>
    obtain ⟨f, hf, rfl⟩ := Option.map_eq_some_iff.1 h
    rw [deliverWith, reportError, hf]

theorem deliverWith_of_answer {e : Event} {m : Run (Channel σ) Reply}
    (h : cs.answer? d e = some m) : cs.deliverWith d e = cs.settle d m := by
  cases e with
  | text s =>
    obtain ⟨f, hf, rfl⟩ := Option.map_eq_some_iff.1 h
    rw [deliverWith, hf]
  | binary pieces =>
    obtain ⟨f, hf, rfl⟩ := Option.map_eq_some_iff.1 h
    rw [deliverWith, hf, reassemble_eq_flatten]
  | close reason => cases h
  | error message => cases h

theorem hears_of_answer {e : Event} {m : Run (Channel σ) Reply} (h : cs.answer? d e = some m) :
    cs.hears e = true := by
  rw [cs.hears_eq d, h]
  rfl

theorem hears_of_notice {e : Event} {m : Run (Channel σ) Unit} (h : cs.notice? d e = some m) :
    cs.hears e = true := by
  rw [cs.hears_eq d, h, Option.isSome_some, Bool.or_true]

theorem notice?_of_answer {e : Event} {m : Run (Channel σ) Reply} (h : cs.answer? d e = some m) :
    cs.notice? d e = none := by
  cases e with
  | text s | binary pieces => rfl
  | close reason | error message => cases h

/-! ### Settling -/

theorem settle_apply (cs : Callbacks σ) (d : Deliver σ) (m : Run (Channel σ) Reply)
    (c : Channel σ) :
    cs.settle d m c =
      match m c with
      | (.ok none, c') => (.ok (), c')
      | (.ok (some p), c') => ((Call.send p).run.ignoringError) c'
      | (.error f, c') => cs.deliverWith d (.error f.message) c'
      | (.panic p, c') => (.panic p, c') := by
  simp only [settle, Run.bind_apply, Run.attempt]
  rcases m c with ⟨(_ | p) | f | p, c'⟩ <;> rfl

theorem quiet_send_of_room {c : Channel σ} {p : Payload} {f : Frame}
    (frame : Channel.frame c.serializer p = .ok f) (isOpen : c.outbox.isOpen = true)
    (room : c.outbox.queued.length < c.outbox.capacity) :
    (Call.send p).run.ignoringError c =
      (.ok (), { c with outbox.queued := c.outbox.queued ++ [f] }) := by
  have hrun : (Call.send p).run c =
      (.ok (), { c with outbox.queued := c.outbox.queued ++ [f] }) := by
    have hframe : Call.frame c.serializer (.send p) = .ok f := frame
    rw [Call.run_of_frame_ok hframe, Outbox.offer_of_room isOpen room]
  rw [Run.ignoringError_apply, hrun]
  rfl

theorem quiet_send_of_cause {c : Channel σ} {p : Payload}
    (cause : (∃ error, Channel.frame c.serializer p = .error error) ∨
      c.outbox.isOpen = false ∨ c.outbox.capacity ≤ c.outbox.queued.length) :
    (Call.send p).run.ignoringError c = (.ok (), c) := by
  have hrun : ∃ error, (Call.send p).run c = (.error (.framework error), c) := by
    cases hframe : Call.frame c.serializer (.send p) with
    | error error => exact ⟨error, Call.run_of_frame_error hframe⟩
    | ok f =>
      have hoffer : ∃ error, c.outbox.offer f = .error error := by
        rcases cause with ⟨error, hnone⟩ | hclosed | hfull
        · cases hnone.symm.trans hframe
        · exact ⟨_, Outbox.offer_of_not_open hclosed f⟩
        · cases hopen : c.outbox.isOpen with
          | true => exact ⟨_, Outbox.offer_of_full hopen hfull f⟩
          | false => exact ⟨_, Outbox.offer_of_not_open hopen f⟩
      obtain ⟨error, herror⟩ := hoffer
      refine ⟨error, ?_⟩
      rw [Call.run_of_frame_ok hframe, herror]
  obtain ⟨error, herror⟩ := hrun
  rw [Run.ignoringError_apply, herror]
  rfl

theorem Handled.deliverWith_eq {c c' : Channel σ} {e : Event} {acts : List Act} {o : Outcome Unit}
    (h : Handled cs d c e acts o c') : cs.deliverWith d e c = (o, c') := by
  induction h with
  | unheard h =>
    rw [deliverWith_of_unheard h]
    rfl
  | noticed h run => rw [deliverWith_of_notice h, Run.ignoringError_apply, run]
  | unanswered h run => rw [deliverWith_of_answer h, settle_apply, run]
  | answered h run frame isOpen room =>
    rw [deliverWith_of_answer h, settle_apply, run]
    exact quiet_send_of_room frame isOpen room
  | dropped h run cause =>
    rw [deliverWith_of_answer h, settle_apply, run]
    exact quiet_send_of_cause cause
  | failed h run report ih =>
    rw [deliverWith_of_answer h, settle_apply, run]
    exact ih
  | panicked h run => rw [deliverWith_of_answer h, settle_apply, run]

theorem exists_handled_error (cs : Callbacks σ) (d : Deliver σ) (c : Channel σ) (message : String) :
    ∃ acts o c', Handled cs d c (.error message) acts o c' := by
  rcases cs.unheard_or_call d (.error message) with h | ⟨m, h⟩ | ⟨m, h⟩
  · exact ⟨_, _, _, .unheard h⟩
  · cases h
  · exact ⟨_, _, _, .noticed h rfl⟩

theorem exists_handled (cs : Callbacks σ) (d : Deliver σ) (c : Channel σ) (e : Event) :
    ∃ acts o c', Handled cs d c e acts o c' := by
  rcases cs.unheard_or_call d e with h | ⟨m, h⟩ | ⟨m, h⟩
  · exact ⟨_, _, _, .unheard h⟩
  · rcases hrun : m c with ⟨(_ | p) | f | p, c'⟩
    · exact ⟨_, _, _, .unanswered h hrun⟩
    · by_cases hcause : (∃ error, Channel.frame c'.serializer p = .error error) ∨
        c'.outbox.isOpen = false ∨ c'.outbox.capacity ≤ c'.outbox.queued.length
      · exact ⟨_, _, _, .dropped h hrun hcause⟩
      · obtain ⟨hframe, hopen, hroom⟩ := not_or.1 hcause |>.imp_right not_or.1
        cases hf : Channel.frame c'.serializer p with
        | error error => exact absurd ⟨error, hf⟩ hframe
        | ok f =>
          exact ⟨_, _, _, .answered h hrun hf (Bool.not_eq_false _ ▸ hopen) (Nat.not_le.1 hroom)⟩
    · obtain ⟨acts, o, c'', hreport⟩ := exists_handled_error cs d c' f.message
      exact ⟨_, _, _, .failed h hrun hreport⟩
    · exact ⟨_, _, _, .panicked h hrun⟩
  · exact ⟨_, _, _, .noticed h rfl⟩

theorem Handled.outcome_ne_error {c c' : Channel σ} {e : Event} {acts : List Act}
    {o : Outcome Unit} (h : Handled cs d c e acts o c') (f : Failure) : o ≠ .error f := by
  induction h with
  | @noticed c c' e m o h run => cases o <;> exact nofun
  | failed h run report ih => exact ih
  | _ => exact nofun

theorem Handled.unique {c c' c'' : Channel σ} {e : Event} {acts acts' : List Act}
    {o o' : Outcome Unit} (h : Handled cs d c e acts o c') (h' : Handled cs d c e acts' o' c'') :
    acts = acts' := by
  induction h generalizing acts' o' c'' with
  | unheard h => cases h' <;> grind [hears_of_answer, hears_of_notice]
  | noticed h run => cases h' <;> grind [hears_of_notice, notice?_of_answer]
  | unanswered h run | answered h run | dropped h run | failed h run | panicked h run =>
    cases h' <;> grind [hears_of_answer, notice?_of_answer]

/-- What is called besides the callback for the event is told an error. -/
theorem Handled.heard {c c' : Channel σ} {e : Event} {acts : List Act} {o : Outcome Unit}
    (h : Handled cs d c e acts o c') :
    (acts.filterMap Act.heard?).filter (!·.isError) =
      (([e].filter cs.hears).map Heard.ofEvent).filter (!·.isError) := by
  induction h with
  | unheard h =>
    rw [List.filter_cons_of_neg (by simp [h])]
    rfl
  | noticed h run =>
    rw [List.filter_cons_of_pos (hears_of_notice h)]
    rfl
  | unanswered h run | answered h run | dropped h run | panicked h run =>
    rw [List.filter_cons_of_pos (hears_of_answer h)]
    rfl
  | @failed c c' c'' e m f acts o h run report ih =>
    have hreport : (acts.filterMap Act.heard?).filter (!·.isError) = [] := by
      rw [ih]
      cases hheard : cs.hears (.error f.message) <;> simp [hheard, Heard.ofEvent, Heard.isError]
    have hcall : Act.heard? (.call (.ofEvent e) (c'.queuedSince c)) = some (.ofEvent e) := rfl
    rw [List.filter_cons_of_pos (hears_of_answer h), List.filterMap_cons_some hcall,
      List.filter_cons, hreport, List.filter_nil, List.map_singleton, List.filter_cons,
      List.filter_nil]

end Callbacks

/-! ### Frames -/

theorem Outbox.queued_of_offer {o o' : Outbox} {f : Frame} (h : o.offer f = .ok o') :
    o'.queued = o.queued ++ [f] := by
  cases hopen : o.isOpen with
  | false => cases (offer_of_not_open hopen f).symm.trans h
  | true =>
    by_cases hfull : o.capacity ≤ o.queued.length
    · cases (offer_of_full hopen hfull f).symm.trans h
    · rw [offer_of_room hopen (Nat.not_le.1 hfull)] at h
      cases h
      rfl

theorem Call.exists_queued (k : Call) (c : Channel σ) :
    ∃ sent, (k.run c).2.outbox.queued = c.outbox.queued ++ sent := by
  cases hframe : k.frame c.serializer with
  | error error =>
    rw [run_of_frame_error hframe]
    exact ⟨[], (List.append_nil _).symm⟩
  | ok f =>
    rw [run_of_frame_ok hframe]
    cases hoffer : c.outbox.offer f with
    | error error => exact ⟨[], (List.append_nil _).symm⟩
    | ok outbox => exact ⟨[f], Outbox.queued_of_offer hoffer⟩

theorem Traffic.CodeRun.exists_queued {t t' : Traffic σ} (h : t.CodeRun t') :
    ∃ sent, t'.queue = t.queue ++ sent := by
  induction h with
  | refl => exact ⟨[], (List.append_nil _).symm⟩
  | @tail u _ _ hs ih =>
    obtain ⟨sent, hsent⟩ := ih
    cases hs with
    | call k =>
      obtain ⟨more, hmore⟩ := k.exists_queued u.channel
      refine ⟨sent ++ more, ?_⟩
      rw [← List.append_assoc, ← hsent]
      exact hmore
    | compute app => exact ⟨sent, hsent⟩

theorem Run.ByCalls.queued_eq {α : Type} {m : Run (Channel σ) α} (h : m.ByCalls id)
    (c : Channel σ) : (m c).2.outbox.queued = c.outbox.queued ++ (m c).2.queuedSince c := by
  obtain ⟨t', hrun, hchannel⟩ := h c { channel := c } rfl
  obtain ⟨sent, hsent⟩ := hrun.exists_queued
  have hqueued : (m c).2.outbox.queued = c.outbox.queued ++ sent := by
    rw [Traffic.queue, hchannel] at hsent
    exact hsent
  rw [Channel.queuedSince, hqueued, List.drop_left]

namespace Callbacks

variable {cs : Callbacks σ} {d : Deliver σ}

theorem ByCalls.answer? (h : cs.ByCalls) (hd : Deliver.ByCalls d) {e : Event}
    {m : Run (Channel σ) Reply} (hm : cs.answer? d e = some m) : m.ByCalls id := by
  cases e with
  | text s =>
    obtain ⟨f, hf, rfl⟩ := Option.map_eq_some_iff.1 hm
    exact h.onText f hf d hd s
  | binary pieces =>
    obtain ⟨f, hf, rfl⟩ := Option.map_eq_some_iff.1 hm
    exact h.onBinary f hf d hd pieces.flatten
  | close reason => cases hm
  | error message => cases hm

theorem ByCalls.notice? (h : cs.ByCalls) (hd : Deliver.ByCalls d) {e : Event}
    {m : Run (Channel σ) Unit} (hm : cs.notice? d e = some m) : m.ByCalls id := by
  cases e with
  | text s => cases hm
  | binary pieces => cases hm
  | close reason =>
    obtain ⟨f, hf, rfl⟩ := Option.map_eq_some_iff.1 hm
    exact h.onClose f hf d hd reason
  | error message =>
    obtain ⟨f, hf, rfl⟩ := Option.map_eq_some_iff.1 hm
    exact h.onError f hf d hd message

theorem Handled.queued_eq (hcs : cs.ByCalls) (hd : Deliver.ByCalls d) {c c' : Channel σ} {e : Event}
    {acts : List Act} {o : Outcome Unit} (h : Handled cs d c e acts o c') :
    c'.outbox.queued = c.outbox.queued ++ acts.flatMap Act.frames := by
  have hcall {c c' : Channel σ} {e : Event} {m : Run (Channel σ) Reply} {result : Outcome Reply}
      (h : cs.answer? d e = some m) (run : m c = (result, c')) :
      c'.outbox.queued = c.outbox.queued ++ c'.queuedSince c := by
    have hm := (hcs.answer? hd h).queued_eq c
    rwa [run] at hm
  induction h with
  | unheard h => exact (List.append_nil _).symm
  | @noticed c c' e m o h run =>
    have hm := (hcs.notice? hd h).queued_eq c
    rw [run] at hm
    simpa [Act.frames] using hm
  | unanswered h run | dropped h run | panicked h run => simpa [Act.frames] using hcall h run
  | @answered c c' e m p f h run frame isOpen room =>
    simp [Act.frames, hcall h run]
  | @failed c c' c'' e m f acts o h run report ih =>
    rw [ih, hcall h run, List.flatMap_cons, List.append_assoc]
    rfl

/-! ### Runs of events -/

def deliverAll (cs : Callbacks σ) (d : Deliver σ) (c : Channel σ) (es : List Event) : Channel σ :=
  es.foldl (fun c e ↦ (cs.deliverWith d e c).2) c

theorem deliverAll_cons (cs : Callbacks σ) (d : Deliver σ) (c : Channel σ) (e : Event)
    (es : List Event) :
    cs.deliverAll d c (e :: es) = cs.deliverAll d (cs.deliverWith d e c).2 es := rfl

/-- What a run of events comes to, each in the channel that the one before it left. -/
inductive HandledAll (cs : Callbacks σ) (d : Deliver σ) :
    Channel σ → List Event → List Act → Channel σ → Prop
  | nil {c : Channel σ} : HandledAll cs d c [] [] c
  | cons {c c' c'' : Channel σ} {e : Event} {es : List Event} {acts more : List Act}
      {o : Outcome Unit} (first : Handled cs d c e acts o c')
      (others : HandledAll cs d c' es more c'') : HandledAll cs d c (e :: es) (acts ++ more) c''

theorem exists_handledAll (cs : Callbacks σ) (d : Deliver σ) (c : Channel σ) (es : List Event) :
    ∃ acts, HandledAll cs d c es acts (cs.deliverAll d c es) := by
  induction es generalizing c with
  | nil => exact ⟨[], .nil⟩
  | cons e es ih =>
    obtain ⟨acts, o, c', first⟩ := exists_handled cs d c e
    obtain ⟨more, others⟩ := ih c'
    refine ⟨acts ++ more, .cons first ?_⟩
    rw [deliverAll_cons, first.deliverWith_eq]
    exact others

variable {c c' : Channel σ} {es : List Event} {acts : List Act}

theorem HandledAll.deliverAll_eq (h : HandledAll cs d c es acts c') :
    cs.deliverAll d c es = c' := by
  induction h with
  | nil => rfl
  | cons first others ih => rw [deliverAll_cons, first.deliverWith_eq, ih]

theorem HandledAll.unique {c'' : Channel σ} {acts' : List Act} (h : HandledAll cs d c es acts c')
    (h' : HandledAll cs d c es acts' c'') : acts = acts' := by
  induction h generalizing acts' c'' with
  | nil =>
    cases h'
    rfl
  | @cons c c' c'' e es acts more o first others ih =>
    cases h' with
    | @cons _ d' _ _ _ acts' more' o' first' others' =>
      obtain rfl := first.unique first'
      have hstate : (o, c') = (o', d') := first.deliverWith_eq.symm.trans first'.deliverWith_eq
      cases hstate
      rw [ih others']

theorem HandledAll.heard (h : HandledAll cs d c es acts c') :
    (acts.filterMap Act.heard?).filter (!·.isError) =
      ((es.filter cs.hears).map Heard.ofEvent).filter (!·.isError) := by
  induction h with
  | nil => rfl
  | @cons c c' c'' e es acts more o first others ih =>
    rw [List.filterMap_append, List.filter_append, first.heard, ih, ← List.filter_append,
      ← List.map_append, ← List.filter_append, List.singleton_append]

theorem HandledAll.queued_eq (hcs : cs.ByCalls) (hd : Deliver.ByCalls d)
    (h : HandledAll cs d c es acts c') :
    c'.outbox.queued = c.outbox.queued ++ acts.flatMap Act.frames := by
  induction h with
  | nil => exact (List.append_nil _).symm
  | cons first others ih =>
    rw [ih, first.queued_eq hcs hd, List.flatMap_append, List.append_assoc]

/-- A log to which each callback adds what it is called with. -/
structure Records (log : σ → List Heard) (cs : Callbacks σ) (d : Deliver σ) : Prop where
  answer : ∀ e m, cs.answer? d e = some m → ∀ c, log (m c).2.app = log c.app ++ [.ofEvent e]
  notice : ∀ e m, cs.notice? d e = some m → ∀ c, log (m c).2.app = log c.app ++ [.ofEvent e]

theorem Handled.logs {log : σ → List Heard} (hlog : Records log cs d) {e : Event}
    {o : Outcome Unit} (h : Handled cs d c e acts o c') :
    log c'.app = log c.app ++ acts.filterMap Act.heard? := by
  have hcall {c c' : Channel σ} {e : Event} {m : Run (Channel σ) Reply} {result : Outcome Reply}
      (h : cs.answer? d e = some m) (run : m c = (result, c')) :
      log c'.app = log c.app ++ [.ofEvent e] := by
    have hm := hlog.answer e m h c
    rwa [run] at hm
  induction h with
  | unheard h => exact (List.append_nil _).symm
  | @noticed c c' e m o h run =>
    have hm := hlog.notice e m h c
    rwa [run] at hm
  | unanswered h run | dropped h run | panicked h run => exact hcall h run
  | answered h run frame isOpen room =>
    have hm := hcall h run
    exact hm
  | failed h run report ih =>
    rw [ih, hcall h run, List.append_assoc]
    rfl

theorem HandledAll.logs {log : σ → List Heard} (hlog : Records log cs d)
    (h : HandledAll cs d c es acts c') : log c'.app = log c.app ++ acts.filterMap Act.heard? := by
  induction h with
  | nil => exact (List.append_nil _).symm
  | cons first others ih =>
    rw [ih, first.logs hlog, List.filterMap_append, List.append_assoc]

theorem deliverAll_filter_hears (cs : Callbacks σ) (d : Deliver σ) (c : Channel σ)
    (es : List Event) : cs.deliverAll d c (es.filter cs.hears) = cs.deliverAll d c es := by
  induction es generalizing c with
  | nil => rfl
  | cons e es ih =>
    cases he : cs.hears e with
    | true => rw [List.filter_cons_of_pos he, deliverAll_cons, deliverAll_cons, ih]
    | false =>
      rw [List.filter_cons_of_neg (by simp [he]), ih, deliverAll_cons, deliverWith_of_unheard he]
      rfl

theorem deliverAll_of_dropped {e : Event} {m : Run (Channel σ) Reply} {p : Payload}
    (h : cs.answer? d e = some m) (run : m c = (.ok (some p), c'))
    (cause : (∃ error, Channel.frame c'.serializer p = .error error) ∨
      c'.outbox.isOpen = false ∨ c'.outbox.capacity ≤ c'.outbox.queued.length) (es : List Event) :
    cs.deliverAll d c (e :: es) = cs.deliverAll d c' es := by
  rw [deliverAll_cons, (Handled.dropped h run cause).deliverWith_eq]

theorem deliverAll_of_failed {e : Event} {m : Run (Channel σ) Reply} {f : Failure}
    (h : cs.answer? d e = some m) (run : m c = (.error f, c')) (es : List Event) :
    cs.deliverAll d c (e :: es) = cs.deliverAll d c' (.error f.message :: es) := by
  rw [deliverAll_cons, deliverAll_cons, deliverWith_of_answer h, settle_apply, run]

theorem foldl_deliverNested_eq (cs : Callbacks σ) (depth : Nat) (c : Channel σ) (es : List Event) :
    es.foldl (fun c e ↦ (cs.deliverNested (depth + 1) e c).2) c =
      cs.deliverAll (cs.deliverNested depth) c es := rfl

theorem foldl_deliver_eq (cs : Callbacks σ) (c : Channel σ) (es : List Event) :
    es.foldl (Channel.deliver cs) c = cs.deliverAll (cs.deliverNested (maxNesting - 1)) c es := by
  have hstep : Channel.deliver cs = fun c e ↦ (cs.deliver e c).2 := by
    funext c e
    exact Run.contained_snd _ c
  rw [hstep]
  exact cs.foldl_deliverNested_eq (maxNesting - 1) c es

/-- The delivery of events, one after the other, in whatever state the queue is, and however the
callbacks may deliver others. Those without a callback do nothing. Every other event is told once, to
the callback of its kind and a message in one piece. A reply is queued behind the frames that the
callback sent; one that cannot be sent makes no difference, and nobody is told. A failure is told
once, as an error of the channel, and nothing is replied. Deliveries from within callbacks go the same
way, as long as they nest less than `maxNesting` deep. -/
theorem events_delivered_once (cs : Callbacks σ) (d : Deliver σ) (c : Channel σ) (es : List Event) :
    (∃ acts,
      (∀ acts' c', HandledAll cs d c es acts' c' ↔ acts' = acts ∧ c' = cs.deliverAll d c es) ∧
      (acts.filterMap Act.heard?).filter (!·.isError) =
        ((es.filter cs.hears).map Heard.ofEvent).filter (!·.isError) ∧
      (∀ log, Records log cs d →
        log (cs.deliverAll d c es).app = log c.app ++ acts.filterMap Act.heard?) ∧
      (cs.ByCalls → Deliver.ByCalls d →
        (cs.deliverAll d c es).outbox.queued = c.outbox.queued ++ acts.flatMap Act.frames)) ∧
    cs.deliverAll d c (es.filter cs.hears) = cs.deliverAll d c es ∧
    (∀ e m, cs.answer? d e = some m →
      (∀ p c', m c = (.ok (some p), c') → (∃ error, Channel.frame c'.serializer p = .error error) ∨
          c'.outbox.isOpen = false ∨ c'.outbox.capacity ≤ c'.outbox.queued.length →
        cs.deliverAll d c (e :: es) = cs.deliverAll d c' es) ∧
      ∀ f c', m c = (.error f, c') →
        cs.deliverAll d c (e :: es) = cs.deliverAll d c' (.error f.message :: es)) ∧
    (∀ e f, (cs.deliverWith d e c).1 ≠ .error f) ∧
    (∀ serializer p r, Channel.frame serializer p = r ↔ p.Framed serializer r) ∧
    es.foldl (Channel.deliver cs) c = cs.deliverAll (cs.deliverNested (maxNesting - 1)) c es ∧
    ∀ depth, es.foldl (fun c e ↦ (cs.deliverNested (depth + 1) e c).2) c =
      cs.deliverAll (cs.deliverNested depth) c es := by
  obtain ⟨acts, h⟩ := exists_handledAll cs d c es
  refine ⟨⟨acts, ?_, h.heard, fun log hlog ↦ h.logs hlog, fun hcs hd ↦ h.queued_eq hcs hd⟩,
    deliverAll_filter_hears cs d c es, ?_, ?_, fun serializer p r ↦ Channel.frame_eq_iff,
    foldl_deliver_eq cs c es, fun depth ↦ cs.foldl_deliverNested_eq depth c es⟩
  · intro acts' c'
    constructor
    · intro h'
      exact ⟨h'.unique h, h'.deliverAll_eq.symm⟩
    · intro ⟨hacts, hc⟩
      rwa [hacts, hc]
  · intro e m h
    exact ⟨fun p c' run cause ↦ deliverAll_of_dropped h run cause es,
      fun f c' run ↦ deliverAll_of_failed h run es⟩
  · intro e f
    obtain ⟨acts, o, c', h⟩ := exists_handled cs d c e
    rw [h.deliverWith_eq]
    exact h.outcome_ne_error f

-- The second reply finds no room, and nobody is told; the third call fails.
example :
    let note (h : Heard) : Run (Channel (List Heard)) Unit :=
      Run.modify fun c ↦ { c with app := c.app ++ [h] }
    let cs : Callbacks (List Heard) :=
      { onText := some fun _ s ↦ do
          note (.text s)
          if s = "no" then Run.fail (.other "refused") else pure (some (.text s))
        onError := some fun _ message ↦ note (.error message) }
    let c := cs.deliverAll (cs.deliverNested (maxNesting - 1))
      { id := "", path := "/", params := [], serializer := .json, outbox := { capacity := 1 }
        app := [] } [.text "a", .text "b", .binary [[0]], .text "no"]
    c.outbox.queued = [.text "a"] ∧
      c.app = [.text "a", .text "b", .text "no", .error "refused"] := by
  decide

end Callbacks

end WebDispatch
