import WebDispatch.Proofs.Requests

namespace WebDispatch

open Http RouteEntry

variable {σ τ : Type}

theorem Upgrade.isRequested_iff (head : RequestHead) :
    isRequested head = true ↔ head.method = .get ∧
      ∃ v s, head.headers.get? .upgrade = some v ∧ v.text? = some s ∧ Text.lower s = "websocket" := by
  have hl : Text.lower "websocket" = "websocket" := by decide
  simp only [isRequested, Bool.and_eq_true, beq_iff_eq, Option.any_eq_true_iff_get,
    Text.sameIgnoringCase, hl]
  refine and_congr_right fun _ ↦ ⟨?_, ?_⟩
  · rintro ⟨hs, ht⟩
    obtain ⟨s, hs⟩ := Option.isSome_iff_exists.1 hs
    obtain ⟨v, hv, hvs⟩ := Option.bind_eq_some_iff.1 hs
    exact ⟨v, s, hv, hvs, by simpa [hs] using ht⟩
  · rintro ⟨v, s, hv, hs, ht⟩
    simp [hv, hs, ht]

theorem Entity.buffer_error {limit : Nat} {buffered : Bytes} {body : List Chunk} {e : Error}
    (h : buffer limit buffered body = .error e) :
    e = .payloadTooLarge limit ∨ ∃ message, e = .malformedEntity message := by
  induction body generalizing buffered with
  | nil => cases h
  | cons chunk body ih =>
    cases chunk with
    | failure message => exact .inr ⟨message, (Except.error.inj h).symm⟩
    | data bytes =>
      rw [buffer] at h
      split at h
      · exact .inl (Except.error.inj h).symm
      · exact ih h

theorem Entity.ofMultipart_error {contentType fault : String} {data : Bytes} {e : Error}
    (h : ofMultipart contentType data fault = .error e) : e = .malformedEntity fault := by
  unfold ofMultipart at h
  split at h
  · exact (Except.error.inj h).symm
  · cases h

theorem Entity.read_error {limit : Nat} {contentType : Option String} {body : List Chunk} {e : Error}
    (h : read limit contentType body = .error e) :
    e = .payloadTooLarge limit ∨ ∃ message, e = .malformedEntity message := by
  unfold read at h
  cases hb : buffer limit [] body with
  | error e' =>
    rw [hb] at h
    obtain rfl : e' = e := Except.error.inj h
    exact buffer_error hb
  | ok data =>
    rw [hb] at h
    cases hm : contentType.filter isMultipart with
    | some contentType =>
      rw [hm] at h
      exact .inr ⟨_, ofMultipart_error h⟩
    | none =>
      rw [hm] at h
      cases h

namespace Dispatcher

/-- A request to make its connection a channel, on the path of a channel. -/
structure OpensChannel (d : Dispatcher σ) (head : RequestHead) : Prop where
  method : head.method = .get
  header : ∃ v s, head.headers.get? .upgrade = some v ∧ v.text? = some s ∧
    Text.lower s = "websocket"
  path : ∃ r ∈ d.channels, ∃ captures, r.pattern.captures? head.uri.path = some captures

theorem findChannel_eq_none_iff (path : String) (channels : List (ChannelRoute σ)) :
    findChannel path channels = none ↔ ∀ r ∈ channels, r.pattern.captures? path = none := by
  induction channels with
  | nil => simp [findChannel]
  | cons r rs ih =>
    rw [findChannel, List.forall_mem_cons]
    cases hc : r.pattern.captures? path with
    | none => simpa using ih
    | some captures => simp

theorem requestedChannel_eq_none {d : Dispatcher σ} {head : RequestHead}
    (h : ¬ d.OpensChannel head) : d.requestedChannel head = none := by
  unfold requestedChannel
  split
  · rename_i hr
    obtain ⟨hm, hh⟩ := (Upgrade.isRequested_iff head).1 hr
    refine (findChannel_eq_none_iff _ _).2 fun r hr ↦ ?_
    cases hc : r.pattern.captures? head.uri.path with
    | none => rfl
    | some captures => exact absurd ⟨hm, hh, r, hr, captures, hc⟩ h
  · rfl

theorem dispatch_of_not_opensChannel {d : Dispatcher σ} {q : Request} (h : ¬ d.OpensChannel q.head)
    (isUpgradable : Bool) (w : World σ) : d.dispatch isUpgradable q w = d.dispatchToRoute q w :=
  dispatch_of_channel_eq_none (requestedChannel_eq_none h) isUpgradable w

structure SameTable (d d' : Dispatcher σ) : Prop where
  settings : d'.settings = d.settings
  channels : d'.channels = d.channels
  routes : d'.routes.map bare = d.routes.map bare

/-- Dispatches a request in front of a service that has a state of its own, and is called with what
no route accepts. -/
def before (d : Dispatcher σ) (inner : Request → StateM τ Response) (isUpgradable : Bool)
    (q : Request) (w : World σ) : StateM τ (Dispatched σ × World σ) :=
  match d.dispatch isUpgradable q w with
  | (.unmatched q, w) => do return (.answered (← inner q), w)
  | dispatched => pure dispatched

theorem before_pure (d : Dispatcher σ) (inner : Request → Response) (isUpgradable : Bool)
    (q : Request) (w : World σ) (t : τ) :
    d.before (fun q ↦ pure (inner q)) isUpgradable q w t =
      ((orElse inner (d.dispatch isUpgradable q w).1, (d.dispatch isUpgradable q w).2), t) := by
  unfold before
  rcases d.dispatch isUpgradable q w with ⟨out, w'⟩
  cases out <;> rfl

end Dispatcher

structure Registry.SameTable (r r' : Registry σ) : Prop where
  settings : r'.settings = r.settings
  channels : r'.channels = r.channels
  routes : r'.routes.map (fun p ↦ (p.method, p.pattern, p.predicate)) =
    r.routes.map fun p ↦ (p.method, p.pattern, p.predicate)

theorem Registry.SameTable.dispatcher {r r' : Registry σ} (h : r.SameTable r') :
    r.dispatcher.SameTable r'.dispatcher := by
  refine ⟨h.settings, h.channels, ?_⟩
  have hb (r : Registry σ) : r.dispatcher.routes.map bare =
      (r.routes.map fun p ↦ (p.method, p.pattern, p.predicate)).map
        fun k ↦ ⟨k.1, k.2.1, k.2.2, default⟩ := by
    simp only [Registry.dispatcher, List.map_map]
    rfl
  rw [hb, hb, h.routes]

namespace Dispatcher

theorem dispatch_of_unmatched {d : Dispatcher σ} {q : Request} (hq : ¬ d.OpensChannel q.head)
    {w : World σ} (h : ∀ i r c, ¬ AcceptsAt (.ofRequest q.head) d.routes w.app i r c)
    (isUpgradable : Bool) :
    d.dispatch isUpgradable q w = (.unmatched q,
      { w with app := ask (questions (.ofRequest q.head) d.routes) w.app }) := by
  rw [dispatch_of_not_opensChannel hq, dispatchToRoute_of_forall_not_acceptsAt h]

theorem dispatch_of_refused {d : Dispatcher σ} {q : Request} (hq : ¬ d.OpensChannel q.head)
    {w : World σ} {i : Nat} {r : RouteEntry σ} {c : List (String × String)}
    (h : Selects (.ofRequest q.head) d.routes w.app i r c) {e : Error} (he : d.entity q = .error e)
    (isUpgradable : Bool) :
    d.dispatch isUpgradable q w = (.answered e.response,
      { w with app := ask (questions (.ofRequest q.head) (d.routes.take (i + 1))) w.app }) := by
  rw [dispatch_of_not_opensChannel hq, dispatchToRoute_of_entity_error h he]

/-- What is behind the predicates of the routes has no part in a request: neither the handlers of a
dispatcher nor, in a registry, wrappers, terminals and what these are made from. -/
structure Bypasses (d : Dispatcher σ) (q : Request) (w : World σ) (isUpgradable : Bool) : Prop where
  handlers : ∀ d', d.SameTable d' → d'.dispatch isUpgradable q w = d.dispatch isUpgradable q w
  registries : ∀ r r' : Registry σ, r.dispatcher = d → r.SameTable r' →
    r'.dispatcher.dispatch isUpgradable q w = r.dispatcher.dispatch isUpgradable q w

theorem bypasses_of_forall_not_enters {d : Dispatcher σ} {q : Request} {w : World σ}
    (h : ∀ i r s, ¬ d.Enters q w i r s) (isUpgradable : Bool) : d.Bypasses q w isUpgradable := by
  have hd (d' : Dispatcher σ) (hs : d.SameTable d') :
      d'.dispatch isUpgradable q w = d.dispatch isUpgradable q w :=
    (dispatch_congr hs.settings.symm hs.channels.symm hs.routes.symm
      (fun i r _ s he _ ↦ absurd he (h i r s)) isUpgradable).symm
  refine ⟨hd, fun r r' hr hs ↦ ?_⟩
  subst hr
  exact hd _ hs.dispatcher

theorem before_of_unmatched {d : Dispatcher σ} {q : Request} {w w' : World σ} {isUpgradable : Bool}
    (h : d.dispatch isUpgradable q w = (.unmatched q, w'))
    (inner : Request → StateM τ Response) (t : τ) :
    d.before inner isUpgradable q w t = ((.answered (inner q t).1, w'), (inner q t).2) := by
  rw [before, h]
  rfl

theorem before_of_answered {d : Dispatcher σ} {q : Request} {w w' : World σ} {isUpgradable : Bool}
    {response : Response} (h : d.dispatch isUpgradable q w = (.answered response, w'))
    (inner : Request → StateM τ Response) (t : τ) :
    d.before inner isUpgradable q w t = ((.answered response, w'), t) := by
  rw [before, h]
  rfl

/-- A request that is not run leaves no trace. Unless it asks for a channel that exists, channels make
no difference to it. If no route accepts it, the same request is handed back, body included, and an inner
service goes from its state to the one that answering this request leads to, that is, it is called once.
If a route is selected and the body is refused, the response tells the reason, and no inner service is
called. In both cases the world differs only by what the predicates of routes did that were asked, and
nothing behind these has a part in the outcome. -/
theorem unserved_leaves_no_trace (d : Dispatcher σ) {q : Request} (hq : ¬ d.OpensChannel q.head)
    (isUpgradable : Bool) (w : World σ) :
    d.dispatch isUpgradable q w = { d with channels := [] }.dispatch isUpgradable q w ∧
    (∀ (τ : Type) (inner : Request → Response) (t : τ),
      d.before (fun q ↦ pure (inner q)) isUpgradable q w t =
        ((orElse inner (d.dispatch isUpgradable q w).1, (d.dispatch isUpgradable q w).2), t)) ∧
    ((∀ i r c, ¬ AcceptsAt (.ofRequest q.head) d.routes w.app i r c) →
      let w' := { w with app := ask (questions (.ofRequest q.head) d.routes) w.app }
      d.dispatch isUpgradable q w = (.unmatched q, w') ∧
      (∀ (τ : Type) (inner : Request → StateM τ Response) t,
        d.before inner isUpgradable q w t = ((.answered (inner q t).1, w'), (inner q t).2)) ∧
      d.Bypasses q w isUpgradable) ∧
    ∀ i r c, Selects (.ofRequest q.head) d.routes w.app i r c → ∀ e, d.entity q = .error e →
      let w' := { w with app := ask (questions (.ofRequest q.head) (d.routes.take (i + 1))) w.app }
      (e = .payloadTooLarge d.settings.maxBodyBytes ∧
          e.response = Problem.response ⟨413, e.message⟩ ∨
        (∃ message, e = .malformedEntity message) ∧
          e.response = Problem.response ⟨400, e.message⟩) ∧
      d.dispatch isUpgradable q w = (.answered e.response, w') ∧
      (∀ (τ : Type) (inner : Request → StateM τ Response) t,
        d.before inner isUpgradable q w t = ((.answered e.response, w'), t)) ∧
      d.Bypasses q w isUpgradable := by
  refine ⟨?_, fun τ inner t ↦ d.before_pure inner isUpgradable q w t, fun hn ↦ ?_,
    fun i r c hs e he ↦ ?_⟩
  · have hq' : ¬ { d with channels := [] }.OpensChannel q.head := by
      rintro ⟨-, -, r, hr, -⟩
      cases hr
    rw [dispatch_of_not_opensChannel hq, dispatch_of_not_opensChannel hq']
    rfl
  · have hd := dispatch_of_unmatched hq hn isUpgradable
    refine ⟨hd, fun τ inner t ↦ before_of_unmatched hd inner t, ?_⟩
    refine bypasses_of_forall_not_enters (fun i r s henters ↦ ?_) isUpgradable
    cases henters with
    | intro channel route body => exact hn _ _ _ route.accepts
  · have hd := dispatch_of_refused hq hs he isUpgradable
    refine ⟨?_, hd, fun τ inner t ↦ before_of_answered hd inner t, ?_⟩
    · obtain rfl | ⟨message, rfl⟩ := Entity.read_error he
      · exact .inl ⟨rfl, rfl⟩
      · exact .inr ⟨⟨message, rfl⟩, rfl⟩
    · refine bypasses_of_forall_not_enters (fun i r s henters ↦ ?_) isUpgradable
      cases henters with
      | intro channel route body => rw [he] at body; cases body

/-! ### A registry in which all that runs panics -/

def panickingWrapper : WrapperEntry Unit where
  predicate := none
  injections := ⟨[], []⟩
  function := fun _ ↦ Run.panic .silent

def alarmed : Registry Unit :=
  { Registry.single (.plain fun _ ↦ Run.panic .silent) with
    wrappers := [panickingWrapper]
    channels := [{ pattern := ⟨"/", []⟩, function := fun _ ↦ Run.panic .silent, injections := ⟨[], []⟩ }] }

def calm : Registry Unit :=
  { Registry.single (.plain fun _ ↦ pure .empty) with channels := alarmed.channels }

def brokenRequest : Request :=
  { rootRequest with body := [.data [0x68], .failure "reset"] }

def deleteRequest : Request :=
  { rootRequest with head := { rootRequest.head with method := .delete } }

def recordingService (q : Request) : StateM (List Request) Response :=
  fun calls ↦ (notFound q, calls ++ [q])

theorem unserved_leaves_no_trace_of_alarmed :
    (alarmed.dispatcher.dispatch true brokenRequest (freshWorld ())).1 =
      .answered (Problem.response ⟨400, "Malformed request entity: reset"⟩) ∧
    calm.dispatcher.dispatch true brokenRequest (freshWorld ()) =
      alarmed.dispatcher.dispatch true brokenRequest (freshWorld ()) ∧
    (alarmed.dispatcher.before recordingService true brokenRequest (freshWorld ()) []).2 = [] ∧
    (alarmed.dispatcher.dispatch true deleteRequest (freshWorld ())).1 = .unmatched deleteRequest ∧
    (alarmed.dispatcher.before recordingService true deleteRequest (freshWorld ()) []).2 =
      [deleteRequest] := by
  have hroot : ¬ alarmed.dispatcher.OpensChannel rootRequest.head := by
    rintro ⟨-, ⟨v, s, hv, -, -⟩, -⟩
    cases hv
  have hdelete : ¬ alarmed.dispatcher.OpensChannel deleteRequest.head := by
    rintro ⟨hm, -, -⟩
    exact absurd hm (by decide)
  have hselects : ∃ r c, Selects (.ofRequest rootRequest.head) alarmed.dispatcher.routes () 0 r c := by
    refine ⟨_, [], ⟨rfl, rfl, rfl, fun p hp ↦ ?_⟩, fun j hj ↦ absurd hj (Nat.not_lt_zero j)⟩
    cases hp
  obtain ⟨r, c, hs⟩ := hselects
  have hnone : ∀ i r c,
      ¬ AcceptsAt (.ofRequest deleteRequest.head) alarmed.dispatcher.routes () i r c := by
    intro i r c h
    cases i with
    | zero =>
      obtain rfl := Option.some.inj h.place
      exact absurd h.method (by decide)
    | succ i => cases h.place
  obtain ⟨-, -, -, hrefused⟩ :=
    unserved_leaves_no_trace alarmed.dispatcher (q := brokenRequest) hroot true (freshWorld ())
  obtain ⟨-, hd, hinner, hbypass⟩ := hrefused 0 r c hs (.malformedEntity "reset") rfl
  obtain ⟨-, -, hunmatched, -⟩ :=
    unserved_leaves_no_trace alarmed.dispatcher (q := deleteRequest) hdelete true (freshWorld ())
  obtain ⟨hd', hinner', -⟩ := hunmatched hnone
  refine ⟨congrArg Prod.fst hd, hbypass.registries alarmed calm rfl ⟨rfl, rfl, rfl⟩,
    congrArg Prod.snd (hinner _ recordingService []), congrArg Prod.fst hd',
    congrArg Prod.snd (hinner' _ recordingService [])⟩

end Dispatcher

end WebDispatch
