import WebDispatch.Proofs.Courses

namespace WebDispatch

open Http

variable {σ : Type}

def Exchange.answered (x : Exchange) (headers : Headers) (text : String) : Exchange :=
  { x with headers, body := some (Text.Utf8.encode text), ended := true }

namespace Terminal

variable {t : Terminal σ} {s y : Scene σ} {answer : Answer} {a b : σ} {text : String}

/-- The function of a terminal gives an answer for a client who is let in, and a transaction around
it is committed. The scene is the one in which the function returns, and the application the one
behind the transaction. -/
inductive Returns (t : Terminal σ) (s : Scene σ) : Answer → Scene σ → σ → Prop
  | plain {u answer y values a} (gate : t.authorize s = (.ok true, u))
      (ht : t.transactions = none)
      (injections : t.injections.resolve (some (t.opened u).exchange) u.world.app =
        (.ok values, a))
      (function : t.function values ((t.opened u).withApp a) = (.ok answer, y)) :
      Returns t s answer y y.world.app
  | committed {u answer y m o tx values a b c} (gate : t.authorize s = (.ok true, u))
      (ht : t.transactions = some (m, o)) (start : m.start o u.world.app = (.ok tx, a))
      (injections : t.injections.resolve (some (t.opened u).exchange) a = (.ok values, b))
      (function : t.function values ((t.opened u).withApp b) = (.ok answer, y))
      (commit : tx.commit y.world.app = (.ok (), c)) : Returns t s answer y c

theorem Returns.handler_eq (h : t.Returns s answer y a) :
    t.handler s = t.respond answer (y.withApp a) := by
  cases h with
  | @plain u _ _ values a gate ht injections function =>
    have hinvoke : t.invokeInTransaction (t.opened u) = (.ok answer, y) := by
      simp only [invokeInTransaction, ht]
      rw [invoke_of_injected injections, function]
    rw [handler_of_authorized gate, Scene.withApp_self]
    exact Run.bind_of_ok hinvoke _
  | @committed u _ _ m o tx values a b c gate ht start injections function commit =>
    have hinvoke := (UnitOfWork.committed (s := t.opened u) start injections function commit).eq ht
    rw [handler_of_authorized gate]
    exact Run.bind_of_ok hinvoke _

/-- What is to be sent for an answer: what the template makes of it, the text itself, or what the
serializer makes of it. -/
inductive Renders (t : Terminal σ) (a : σ) : Answer → Outcome String × σ → Prop
  | templateText {template : Template σ} {content : String} (ht : t.template = some template) :
      Renders t a (.text content) (template.apply (.string content) a)
  | templateData {template : Template σ} {v : Json} (ht : t.template = some template) :
      Renders t a (.structured v) (template.apply (.ofJson v) a)
  | text {content : String} (ht : t.template = none) :
      Renders t a (.text content) (.ok content, a)
  | serialized {v : Json} {content : String} (ht : t.template = none)
      (h : t.serializer.serialize v = .ok content) : Renders t a (.structured v) (.ok content, a)
  | refused {v : Json} {e : Error} (ht : t.template = none)
      (h : t.serializer.serialize v = .error e) : Renders t a (.structured v) (.error e, a)

theorem exists_renders (t : Terminal σ) (a : σ) (h : answer ≠ .empty) :
    ∃ r, t.Renders a answer r := by
  cases ht : t.template with
  | some template =>
    cases answer with
    | empty => exact absurd rfl h
    | text s => exact ⟨_, .templateText ht⟩
    | structured v => exact ⟨_, .templateData ht⟩
  | none =>
    cases answer with
    | empty => exact absurd rfl h
    | text s => exact ⟨_, .text ht⟩
    | structured v =>
      cases hv : t.serializer.serialize v with
      | ok text => exact ⟨_, .serialized ht hv⟩
      | error e => exact ⟨_, .refused ht hv⟩

def ending (y : Scene σ) (headers : Headers) : Outcome String × σ → Outcome Unit × Scene σ
  | (.ok text, b) => (.ok (), { y.withApp b with exchange := y.exchange.answered headers text })
  | (.error e, b) => (.error e, y.withApp b)
  | (.panic p, b) => (.panic p, y.withApp b)

theorem send_template {template : Template σ} (ht : t.template = some template)
    (answer : Answer) (y : Scene σ) (a : σ) :
    t.send answer (y.withApp a) =
      ending y y.exchange.headers (template.apply (.ofAnswer answer) a) := by
  simp only [send, ht]
  rw [Run.ofApp_bind, Scene.withApp_app]
  rcases template.apply (.ofAnswer answer) a with ⟨_ | _ | _, b⟩ <;> rfl

theorem replaceContentType_eq (default : Option HeaderValue) (contentType : String)
    (x : Exchange) : ∃ headers, replaceContentType default contentType x = { x with headers } ∧
      ∀ name ≠ .contentType, headers.getAll name = x.headers.getAll name := by
  unfold replaceContentType
  split
  · rename_i value new hnew
    split
    · refine ⟨_, rfl, fun name hname ↦ ?_⟩
      rw [Headers.getAll_insert, if_neg hname.symm]
    · exact ⟨x.headers, rfl, fun name hname ↦ rfl⟩
  · exact ⟨x.headers, rfl, fun name hname ↦ rfl⟩

theorem Renders.send_eq {r : Outcome String × σ} (h : t.Renders a answer r) (y : Scene σ) :
    ∃ headers, t.send answer (y.withApp a) = ending y headers r ∧
      ∀ name ≠ .contentType, headers.getAll name = y.exchange.headers.getAll name := by
  cases h with
  | templateText ht => exact ⟨_, send_template ht _ y a, fun name hname ↦ rfl⟩
  | templateData ht => exact ⟨_, send_template ht _ y a, fun name hname ↦ rfl⟩
  | text ht =>
    refine ⟨y.exchange.headers, ?_, fun name hname ↦ rfl⟩
    simp only [send, ht]
    rfl
  | serialized ht hv =>
    obtain ⟨headers, hheaders, hkept⟩ := replaceContentType_eq t.defaultContentType
      t.serializer.contentType y.exchange
    refine ⟨headers, ?_, hkept⟩
    rw [send_structured ht, hv, Scene.withApp_exchange, hheaders]
    rfl
  | refused ht hv =>
    refine ⟨y.exchange.headers, ?_, fun name hname ↦ rfl⟩
    rw [send_structured ht, hv]
    rfl

/-- An exchange that has ended when the function of a route returns stays as it is, whatever was
answered. Otherwise an answer ends it with what was rendered, and a failure to render does not. -/
theorem ended_exchange_kept (h : t.Returns s answer y a) :
    (y.exchange.ended = true → t.handler s = (.ok (), y.withApp a)) ∧
    (answer = .empty → t.handler s = (.ok (), y.withApp a)) ∧
    (y.exchange.ended = false → answer ≠ .empty → ∃ r, t.Renders a answer r) ∧
    (y.exchange.ended = false → ∀ r, t.Renders a answer r →
      ∃ headers, t.handler s = ending y headers r ∧
        ∀ name ≠ .contentType, headers.getAll name = y.exchange.headers.getAll name) := by
  have hrespond := h.handler_eq
  rw [respond_apply, Scene.withApp_exchange] at hrespond
  refine ⟨fun hended ↦ ?_, fun hempty ↦ ?_, fun _ hne ↦ exists_renders t a hne,
    fun hended r hr ↦ ?_⟩
  · rw [hrespond, hended, Bool.or_true, if_pos rfl]
  · rw [hrespond, hempty]
    rfl
  -- Only an answer that is not empty is rendered.
  · have hanswer : answer.isEmpty = false := by cases hr <;> rfl
    rw [hanswer, hended, Bool.or_false, if_neg Bool.false_ne_true] at hrespond
    rw [hrespond]
    exact hr.send_eq y

def unserializable (finishes : Bool) : Terminal Unit where
  __ := plain fun _ s ↦ (.ok (.structured (.bool true)),
    if finishes then { s with exchange := s.exchange.finish } else s)
  serializer := { serialize := fun v ↦ .error (.internal v.toText) }

theorem ended_exchange_kept_of_unserializable :
    let s : Scene Unit := ⟨.ofRequest rootRequest.head, freshWorld ()⟩
    let ended : Scene Unit := { s with exchange := s.exchange.finish }
    (unserializable true).handler s = (.ok (), ended) ∧
      (unserializable false).handler s = (.error (Error.internal "true"), s) := by
  intro s ended
  have hended : (unserializable true).Returns s (.structured (.bool true)) ended () :=
    .plain (u := s) rfl rfl rfl rfl
  have hopen : (unserializable false).Returns s (.structured (.bool true)) s () :=
    .plain (u := s) rfl rfl rfl rfl
  have hrefused : (unserializable false).Renders () (.structured (.bool true))
      (.error (Error.internal "true"), ()) := .refused rfl rfl
  obtain ⟨headers, hhandler, -⟩ := (ended_exchange_kept hopen).2.2.2 rfl _ hrefused
  exact ⟨(ended_exchange_kept hended).1 rfl, hhandler⟩

end Terminal

end WebDispatch
