import WebDispatch.Proofs.SessionCode

namespace WebDispatch

open Http

variable {σ α : Type} {H H' : HeaderPolicy}

namespace Run.Confined

theorem accepted (p : Option (Predicate σ)) : Confined H (Run.accepted p) := by
  cases p with
  | none => exact pure true
  | some p => exact exchange.bind fun x ↦ .ofApp (p x)

theorem injected (i : Injections σ) : Confined H (Run.injected i) :=
  exchange.bind fun x ↦ (ofApp (i.resolve (some x))).bind fun _ ↦ .ofOutcome _

end Run.Confined

/-! ### Transactions -/

namespace TransactionScope

theorem start_confined (m : TransactionManager σ) (options : TransactionOptions) :
    Run.Confined H (TransactionScope.start m options) :=
  (Run.Confined.ofApp (m.start options)).bind fun _ ↦
    (Run.Confined.ofOutcome _).bind fun _ ↦ .pure _

theorem abandon_confined (scope : TransactionScope σ) : Run.Confined H scope.abandon := by
  unfold abandon
  split
  · exact (Run.Confined.ofApp _).bind fun _ ↦ .pure _
  · exact .pure _

theorem close_confined (scope : TransactionScope σ)
    (finish : Transaction σ → StateM σ (Except Error Unit)) :
    Run.Confined H (scope.close finish) := by
  unfold close
  refine .onEnd ?_ fun _ ↦ (abandon_confined _).bind fun _ ↦ .ofOutcome _
  split
  · exact (Run.Confined.ofApp _).bind fun _ ↦ .ofOutcome _
  · exact .fail _

theorem settle_confined (scope : TransactionScope σ) (o : Outcome α) :
    Run.Confined H (scope.settle o) := by
  cases o with
  | ok a => exact (scope.close_confined _).bind fun _ ↦ .pure a
  | error f => exact (scope.close_confined _).attempt.bind fun _ ↦ .fail f
  | panic p => exact scope.abandon_confined.bind fun _ ↦ .panic p

end TransactionScope

theorem TransactionManager.within_confined (m : TransactionManager σ)
    (options : TransactionOptions) {body : Run (Scene σ) α} (h : body.Confined H) :
    (m.within options body).Confined H :=
  (TransactionScope.start_confined m options).bind fun scope ↦
    .onEnd h fun _ ↦ scope.settle_confined _

/-! ### Wrappers -/

structure WrapperEntry.Confined (H : HeaderPolicy) (w : WrapperEntry σ) : Prop where
  function : ∀ values, (w.function values).Confined H
  resume : ∀ values s resume t, w.function values s = (.ok (.inward resume), t) →
    ∀ o, (resume o).Confined H

theorem WrapperEntry.Confined.wrap {w : WrapperEntry σ} (h : w.Confined H) (hle : H.Entails H')
    {inner : Handler σ} (hi : inner.Confined H') : (w.wrap inner).Confined H' := by
  refine (Run.Confined.accepted w.predicate).bind fun yes ↦ ?_
  cases yes with
  | false => exact hi
  | true =>
    refine (Run.Confined.injected w.injections).bind fun values ↦ ?_
    refine ((h.function values).mono hle).bind_of_ok fun next s t hs ↦ ?_
    cases next with
    | stop => exact .pure ()
    | inward resume => exact .onEnd hi fun u ↦ (h.resume values s resume t hs _).mono hle

/-- What a wrapper of whole handlers adds to a handler is confined: the two together may do what the
handler may do on its own. -/
def HandlerWrapper.Confined (H : HeaderPolicy) (wrap : HandlerWrapper σ) : Prop :=
  ∀ H' : HeaderPolicy, H.Entails H' →
    ∀ inner : Handler σ, inner.Confined H' → (wrap inner).Confined H'

theorem foldl_confined {β : Type} {wrap : Handler σ → β → Handler σ} {layers : List β}
    (h : ∀ l ∈ layers, ∀ inner : Handler σ, inner.Confined H → (wrap inner l).Confined H)
    {inner : Handler σ} (hi : inner.Confined H) : (layers.foldl wrap inner).Confined H := by
  induction layers generalizing inner with
  | nil => exact hi
  | cons l layers ih =>
    have hl := h l List.mem_cons_self inner hi
    exact ih (fun l' hl' ↦ h l' (List.mem_cons_of_mem _ hl')) hl

theorem composeChain_confined {terminal : Handler σ} {wrappers : List (WrapperEntry σ)}
    {handlerWrappers : List (HandlerWrapper σ)} (ht : terminal.Confined H')
    (hle : H.Entails H') (hw : ∀ w ∈ wrappers, w.Confined H)
    (hh : ∀ wrap ∈ handlerWrappers, wrap.Confined H) :
    (composeChain terminal wrappers handlerWrappers).Confined H' :=
  foldl_confined (fun wrap hm ↦ hh wrap hm H' hle)
    (foldl_confined (fun w hm _ hi ↦ (hw w hm).wrap hle hi) ht)

/-! ### Terminals -/

structure Terminal.Confined (H : HeaderPolicy) (t : Terminal σ) : Prop where
  function : ∀ values, (t.function values).Confined H
  authenticator : ∀ auth ∈ t.authenticator, Run.Confined H auth

/-- What sending a response does to headers is permitted: it names the content type at the most. -/
structure HeaderPolicy.PermitsResponse (H : HeaderPolicy) : Prop where
  same : ∀ x : Exchange, H x x.headers
  contentType : ∀ (x : Exchange) value, H x (x.headers.insert .contentType value)

theorem HeaderPolicy.free_permitsResponse : free.PermitsResponse :=
  ⟨fun _ ↦ trivial, fun _ _ ↦ trivial⟩

namespace Terminal

variable {t : Terminal σ}

theorem Confined.authorize (h : t.Confined H) (hp : H.PermitsResponse) :
    Run.Confined H t.authorize := by
  unfold Terminal.authorize
  split
  · exact .pure true
  · cases ha : t.authenticator with
    | none =>
      have hm : Run.Confined H (Run.modifyExchange (endWith 403) : Run (Scene σ) Unit) :=
        .modifyExchange fun x ↦ ⟨rfl, rfl, rfl, hp.same x⟩
      exact hm.bind fun _ ↦ .pure false
    | some auth =>
      refine (h.authenticator auth (by rw [ha]; rfl)).bind fun answer ↦ ?_
      cases answer with
      | refused =>
        have hm : Run.Confined H (Run.modifyExchange Exchange.finish : Run (Scene σ) Unit) :=
          .modifyExchange fun x ↦ ⟨rfl, rfl, rfl, hp.same x⟩
        exact hm.bind fun _ ↦ .pure false
      | authenticated principal =>
        -- The judgement reads the exchange and puts another in its place, all in one.
        refine .onExchange (fun x ↦ (.ok (judge t.roles principal x).1,
          (judge t.roles principal x).2)) fun x ↦ ?_
        unfold judge
        split <;> exact ⟨rfl, rfl, rfl, hp.same x⟩

theorem Confined.invokeInTransaction (h : t.Confined H) :
    Run.Confined H t.invokeInTransaction := by
  have hi : Run.Confined H t.invoke := (Run.Confined.injected t.injections).bind h.function
  unfold Terminal.invokeInTransaction
  split
  · rename_i manager options _
    exact manager.within_confined options hi
  · exact hi

theorem sendText_confined (hr : ∀ x : Exchange, H x x.headers) (text : String) :
    Run.Confined H (sendText text : Run (Scene σ) Unit) :=
  .modifyExchange fun x ↦ ⟨rfl, rfl, rfl, hr x⟩

theorem replaceContentType_amends (hp : H.PermitsResponse) (default : Option HeaderValue)
    (contentType : String) (x : Exchange) :
    x.Amends H (replaceContentType default contentType x) := by
  unfold replaceContentType
  split
  · split
    · exact ⟨rfl, rfl, rfl, hp.contentType x _⟩
    · exact ⟨rfl, rfl, rfl, hp.same x⟩
  · exact ⟨rfl, rfl, rfl, hp.same x⟩

theorem respond_confined (hp : H.PermitsResponse) (answer : Answer) :
    Run.Confined H (t.respond answer) := by
  refine Run.Confined.exchange.bind fun x ↦ ?_
  split
  · exact .pure ()
  · unfold send
    split
    · exact (Run.Confined.ofApp _).bind fun o ↦
        (Run.Confined.ofOutcome o).bind (sendText_confined hp.same)
    · split
      · exact .pure ()
      · exact sendText_confined hp.same _
      · exact (Run.Confined.ofOutcome _).bind fun text ↦
          (Run.Confined.modifyExchange (replaceContentType_amends hp _ _)).bind fun _ ↦
            sendText_confined hp.same text

theorem Confined.handler (h : t.Confined H) (hp : H.PermitsResponse)
    (hput : ∀ x : Exchange, H x (putHeaders t.headers x).headers) : Run.Confined H t.handler := by
  refine (h.authorize hp).bind fun isIn ↦ ?_
  cases isIn with
  | false => exact .pure ()
  | true =>
    have hput : Run.Confined H (Run.modifyExchange (putHeaders t.headers) : Run (Scene σ) Unit) :=
      .modifyExchange fun x ↦ ⟨rfl, rfl, rfl, hput x⟩
    exact hput.bind fun _ ↦ h.invokeInTransaction.bind (respond_confined hp)

end Terminal

/-! ### Registries -/

/-- All user code of a registry that works on exchanges is confined. -/
structure Registry.Confined (H : HeaderPolicy) (r : Registry σ) : Prop where
  wrappers : ∀ w ∈ r.wrappers, w.Confined H
  handlerWrappers : ∀ wrap ∈ r.handlerWrappers, wrap.Confined H
  terminals : ∀ p ∈ r.routes, p.terminal.Confined H

theorem Registry.Confined.chain {r : Registry σ} (h : r.Confined H) (hle : H.Entails H')
    {terminal : Handler σ} (ht : terminal.Confined H') :
    (composeChain terminal r.wrappers r.handlerWrappers).Confined H' :=
  composeChain_confined ht hle h.wrappers h.handlerWrappers

end WebDispatch
