import WebDispatch.Proofs.ChannelTraffic

namespace WebDispatch

variable {σ s α β : Type} {channel : s → Channel σ}

namespace Traffic

def CodeRun : Traffic σ → Traffic σ → Prop :=
  Relation.ReflTransGen CodeStep

theorem CodeRun.reaches {t t' : Traffic σ} (h : t.CodeRun t') : t.Reaches t' :=
  Relation.ReflTransGen.mono (fun _ _ ↦ .code) _ _ h

theorem CodeRun.writer_side {t t' : Traffic σ} (h : t.CodeRun t') :
    t'.writer = t.writer ∧ t'.taken = t.taken ∧ t'.written = t.written := by
  induction h with
  | refl => exact ⟨rfl, rfl, rfl⟩
  | tail _ hs ih => cases hs <;> exact ih

def Leads (t : Traffic σ) (c : Channel σ) : Prop :=
  ∃ t', t.CodeRun t' ∧ t'.channel = c

theorem leads_self (t : Traffic σ) : t.Leads t.channel :=
  ⟨t, .refl, rfl⟩

theorem leads_call (t : Traffic σ) (k : Call) : t.Leads (k.run t.channel).2 :=
  ⟨t.call k, .single (.call t k), rfl⟩

theorem leads_app (t : Traffic σ) (app : σ) : t.Leads { t.channel with app } :=
  ⟨_, .single (.compute t app), rfl⟩

end Traffic

namespace Run

/-- Code on a state that holds a channel, which reaches the channel by calls alone. -/
def ByCalls (channel : s → Channel σ) (m : Run s α) : Prop :=
  ∀ x (t : Traffic σ), t.channel = channel x → t.Leads (channel (m x).2)

namespace ByCalls

theorem ofOutcome (o : Outcome α) : ByCalls channel (Run.ofOutcome o) :=
  fun _ t h ↦ h ▸ t.leads_self

theorem pure (a : α) : ByCalls channel (Pure.pure a : Run s α) :=
  ofOutcome (.ok a)

theorem fail (f : Failure) : ByCalls channel (Run.fail f : Run s α) :=
  ofOutcome (.error f)

theorem panic (p : Panic) : ByCalls channel (Run.panic p : Run s α) :=
  ofOutcome (.panic p)

theorem bind {m : Run s α} {f : α → Run s β} (hm : ByCalls channel m)
    (hf : ∀ a, ByCalls channel (f a)) : ByCalls channel (m >>= f) := by
  intro x t h
  rw [bind_apply]
  have hx := hm x t h
  rcases hr : m x with ⟨o, y⟩
  rw [hr] at hx
  cases o with
  | ok a =>
    obtain ⟨u, hu, huc⟩ := hx
    obtain ⟨v, hv, hvc⟩ := hf a y u huc
    exact ⟨v, hu.trans hv, hvc⟩
  | error f => exact hx
  | panic p => exact hx

theorem attempt {m : Run s α} (hm : ByCalls channel m) : ByCalls channel m.attempt := by
  intro x t h
  have hx := hm x t h
  unfold Run.attempt
  rcases hr : m x with ⟨o, y⟩
  rw [hr] at hx
  cases o <;> exact hx

theorem ignoringError {m : Run s Unit} (hm : ByCalls channel m) : ByCalls channel m.ignoringError :=
  hm.attempt.bind fun _ ↦ .pure ()

theorem call (k : Call) : ByCalls id (k.run : Run (Channel σ) Unit) := by
  rintro _ t rfl
  exact t.leads_call k

end ByCalls

end Run

/-! ### Callbacks -/

def Deliver.ByCalls (deliver : Deliver σ) : Prop :=
  ∀ e, (deliver e).ByCalls id

namespace Callbacks

/-- Callbacks that reach the channel by calls alone, if the deliveries that they make do. -/
structure ByCalls (cs : Callbacks σ) : Prop where
  onText : ∀ f, cs.onText = some f → ∀ d, Deliver.ByCalls d → ∀ s, (f d s).ByCalls id
  onBinary : ∀ f, cs.onBinary = some f → ∀ d, Deliver.ByCalls d → ∀ bs, (f d bs).ByCalls id
  onClose : ∀ f, cs.onClose = some f → ∀ d, Deliver.ByCalls d → ∀ reason, (f d reason).ByCalls id
  onError : ∀ f, cs.onError = some f → ∀ d, Deliver.ByCalls d → ∀ message, (f d message).ByCalls id

namespace ByCalls

variable {cs : Callbacks σ} {d : Deliver σ}

theorem reportError (h : cs.ByCalls) (hd : Deliver.ByCalls d) (message : String) :
    (cs.reportError d message).ByCalls id := by
  unfold Callbacks.reportError
  cases hf : cs.onError with
  | none => exact .pure ()
  | some f => exact (h.onError f hf d hd message).ignoringError

theorem settle (h : cs.ByCalls) (hd : Deliver.ByCalls d) {reply : Run (Channel σ) Reply}
    (hr : reply.ByCalls id) : (cs.settle d reply).ByCalls id := by
  refine hr.attempt.bind fun result ↦ ?_
  cases result with
  | error f => exact h.reportError hd f.message
  | ok payload =>
    cases payload with
    | none => exact .pure ()
    | some p => exact (Run.ByCalls.call (.send p)).ignoringError

theorem deliverWith (h : cs.ByCalls) (hd : Deliver.ByCalls d) :
    Deliver.ByCalls (cs.deliverWith d) := by
  intro e
  cases e with
  | text s =>
    simp only [Callbacks.deliverWith]
    cases hf : cs.onText with
    | none => exact .pure ()
    | some f => exact h.settle hd (h.onText f hf d hd s)
  | binary pieces =>
    simp only [Callbacks.deliverWith]
    cases hf : cs.onBinary with
    | none => exact .pure ()
    | some f => exact h.settle hd (h.onBinary f hf d hd _)
  | close reason =>
    simp only [Callbacks.deliverWith]
    cases hf : cs.onClose with
    | none => exact .pure ()
    | some f => exact (h.onClose f hf d hd reason).ignoringError
  | error message => exact h.reportError hd message

theorem deliverNested (h : cs.ByCalls) (depth : Nat) : Deliver.ByCalls (cs.deliverNested depth) := by
  induction depth with
  | zero => exact fun _ ↦ .panic _
  | succ depth ih => exact h.deliverWith ih

theorem deliver (h : cs.ByCalls) : Deliver.ByCalls cs.deliver :=
  h.deliverNested maxNesting

end ByCalls

end Callbacks

theorem Run.contained_snd (m : Run s α) (x : s) : (m.contained x).2 = (m x).2 := by
  unfold Run.contained
  rcases m x with ⟨o, y⟩
  cases o <;> rfl

theorem Channel.leads_deliver {cs : Callbacks σ} (h : cs.ByCalls) (t : Traffic σ) (e : Event) :
    t.Leads (t.channel.deliver cs e) := by
  rw [Channel.deliver, Run.contained_snd]
  exact h.deliver e t.channel t rfl

/-! ### The opening of a channel -/

namespace Opening

theorem byCalls_ofApp (m : StateM σ α) :
    (Run.ofApp m : Run (Opening σ) α).ByCalls Opening.channel := by
  rintro ⟨_, cs⟩ t rfl
  exact t.leads_app _

theorem byCalls_onChannel {m : Run (Channel σ) α} (h : m.ByCalls id) :
    (onChannel m).ByCalls Opening.channel :=
  fun o t ht ↦ h o.channel t ht

end Opening

namespace ChannelRoute

structure ByCalls (r : ChannelRoute σ) : Prop where
  function : ∀ values, (r.function values).ByCalls Opening.channel
  callbacks : ∀ c, (r.run ⟨c, {}⟩).2.callbacks.ByCalls

theorem ByCalls.leads_run {r : ChannelRoute σ} (h : r.ByCalls) (t : Traffic σ) :
    t.Leads (r.run ⟨t.channel, {}⟩).2.channel :=
  (Opening.byCalls_ofApp _).bind (fun _ ↦ (Run.ByCalls.ofOutcome _).bind h.function)
    ⟨t.channel, {}⟩ t rfl

end ChannelRoute

end WebDispatch
