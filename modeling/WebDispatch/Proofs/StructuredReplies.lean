import WebDispatch.Proofs.EndedExchanges
import WebDispatch.Proofs.EventDelivery

namespace WebDispatch

variable {σ τ : Type}

/-! ### Texts of values -/

namespace Json

theorem escape_ne_nil (c : Char) : escape c ≠ [] := by
  unfold escape
  split
  case h_8 => split <;> exact List.cons_ne_nil _ _
  all_goals exact List.cons_ne_nil _ _

theorem length_le_flatMap_escape (cs : List Char) : cs.length ≤ (cs.flatMap escape).length := by
  induction cs with
  | nil => exact Nat.le_refl 0
  | cons c cs ih =>
    have hc := List.length_pos_of_ne_nil (escape_ne_nil c)
    rw [List.flatMap_cons, List.length_append, List.length_cons]
    omega

theorem toText_string_ne (s : String) : toText (.string s) ≠ s := by
  intro h
  have hlength : (printString s).length = s.toList.length := by
    rw [← String.toList_inj, toText, String.toList_ofList] at h
    exact congrArg List.length h
  have hescaped := length_le_flatMap_escape s.toList
  simp only [printString, List.length_cons, List.length_append, List.length_nil] at hlength
  omega

end Json

namespace Serializer

variable {serializer : Serializer} {v : Json}

def text? (serializer : Serializer) (v : Json) : Option String :=
  (serializer.serialize v).toOption

theorem text?_eq_some_iff {text : String} :
    serializer.text? v = some text ↔ serializer.serialize v = .ok text := by
  rw [text?]
  cases serializer.serialize v <;> simp [Except.toOption]

theorem text?_eq_none_iff : serializer.text? v = none ↔ ∃ e, serializer.serialize v = .error e := by
  rw [text?]
  cases serializer.serialize v <;> simp [Except.toOption]

end Serializer

/-! ### Routes -/

/-- The text that is sent for an answer without a template, if there is one. -/
def Answer.body? (serializer : Serializer) : Answer → Option String
  | empty => none
  | text s => some s
  | structured v => serializer.text? v

/-- A value is sent as its text unless it is null, for which nothing is sent, or a string. -/
theorem Answer.body?_ofJson_iff {serializer : Serializer} {v : Json} :
    (ofJson v).body? serializer = serializer.text? v ↔
      (v = .null → ∃ e, serializer.serialize v = .error e) ∧
        ∀ s, v = .string s → serializer.serialize v = .ok s := by
  cases v with
  | null =>
    have hnull : (ofJson .null).body? serializer = none := rfl
    rw [hnull, eq_comm, Serializer.text?_eq_none_iff]
    simp
  | string s =>
    have hstring : (ofJson (.string s)).body? serializer = some s := rfl
    rw [hstring, eq_comm, Serializer.text?_eq_some_iff]
    simp
  | bool b | number n | array items | object fields => exact iff_of_true rfl ⟨nofun, nofun⟩

theorem Answer.body?_ofJson_json_iff {v : Json} :
    (ofJson v).body? .json = Serializer.json.text? v ↔ v ≠ .null ∧ ∀ s, v ≠ .string s := by
  rw [body?_ofJson_iff]
  constructor
  · intro ⟨hnull, hstring⟩
    refine ⟨?_, ?_⟩
    · intro h
      obtain ⟨e, he⟩ := hnull h
      cases he
    · intro s h
      have htext : v.toText = s := Except.ok.inj (hstring s h)
      rw [h] at htext
      exact Json.toText_string_ne s htext
  · intro ⟨hnull, hstring⟩
    exact ⟨fun h ↦ absurd h hnull, fun s h ↦ absurd h (hstring s)⟩

namespace Terminal

variable {t : Terminal σ} {s y : Scene σ} {answer : Answer} {a : σ}

theorem Returns.handler_of_body (h : t.Returns s answer y a) (ht : t.template = none)
    (hopen : y.exchange.ended = false) {text : String}
    (hbody : answer.body? t.serializer = some text) :
    ∃ headers, t.handler s = ending y headers (.ok text, a) := by
  have hrenders : t.Renders a answer (.ok text, a) ∧ answer.isEmpty = false := by
    cases answer with
    | empty => cases hbody
    | text content =>
      cases hbody
      exact ⟨.text ht, rfl⟩
    | structured v => exact ⟨.serialized ht (Serializer.text?_eq_some_iff.1 hbody), rfl⟩
  obtain ⟨headers, hsend, -⟩ := hrenders.1.send_eq y
  refine ⟨headers, ?_⟩
  rw [h.handler_eq, respond_apply, Scene.withApp_exchange, hrenders.2, hopen, Bool.or_false,
    if_neg Bool.false_ne_true, hsend]

theorem Returns.handler_of_no_body (h : t.Returns s answer y a) (ht : t.template = none)
    (hbody : answer.body? t.serializer = none) : (t.handler s).2 = y.withApp a := by
  rw [h.handler_eq, respond_apply]
  split
  · rfl
  · rename_i hne
    cases answer with
    | empty => exact absurd rfl hne
    | text content => cases hbody
    | structured v =>
      obtain ⟨e, he⟩ := Serializer.text?_eq_none_iff.1 hbody
      rw [send_structured ht, he]

end Terminal

/-! ### Channels -/

def Reply.frames (serializer : Serializer) : Reply → List Frame
  | none => []
  | some p => (Channel.frame serializer p).toOption.toList

theorem Reply.frames_ofJson (serializer : Serializer) (v : Json) :
    (Reply.ofJson v).frames serializer = (serializer.text? v).toList.map .text := by
  have hframe : Channel.frame serializer (.ofJson v) = (serializer.serialize v).map .text := rfl
  rw [Reply.ofJson, Reply.frames, hframe, Serializer.text?]
  cases serializer.serialize v <;> rfl

namespace Callbacks

theorem deliverWith_of_reply {cs : Callbacks σ} {d : Deliver σ} {e : Event}
    {m : Run (Channel σ) Reply} {c c' : Channel σ} {reply : Reply} (h : cs.answer? d e = some m)
    (run : m c = (.ok reply, c')) (isOpen : c'.outbox.isOpen = true)
    (room : c'.outbox.queued.length < c'.outbox.capacity) :
    cs.deliverWith d e c = (.ok (), { c' with
      outbox.queued := c'.outbox.queued ++ reply.frames c'.serializer }) := by
  cases reply with
  | none => rw [(Handled.unanswered h run).deliverWith_eq, Reply.frames, List.append_nil]
  | some p =>
    cases hframe : Channel.frame c'.serializer p with
    | ok f =>
      rw [(Handled.answered h run hframe isOpen room).deliverWith_eq, Reply.frames, hframe]
      rfl
    | error error =>
      rw [(Handled.dropped h run (.inl ⟨error, hframe⟩)).deliverWith_eq, Reply.frames, hframe]
      simp [Except.toOption]

/-- What is sent for a JSON value. A callback that replies with it, on a channel whose queue is open
and has room, sends its text, or nothing if it has none. A route without a template that answers
with it sends the same as its body, except that it sends nothing for null and a string as it is. -/
theorem replies_match_answers_iff (serializer : Serializer) (v : Json) :
    (∀ (cs : Callbacks σ) d e m c c', cs.answer? d e = some m → m c = (.ok (.ofJson v), c') →
      c'.serializer = serializer → c'.outbox.isOpen = true →
      c'.outbox.queued.length < c'.outbox.capacity →
      cs.deliverWith d e c = (.ok (), { c' with
        outbox.queued := c'.outbox.queued ++ (serializer.text? v).toList.map .text })) ∧
    (∀ (t : Terminal τ) s y a, t.Returns s (.ofJson v) y a → t.template = none →
      t.serializer = serializer → y.exchange.ended = false →
      (∀ text, (Answer.ofJson v).body? serializer = some text →
        ∃ headers, t.handler s = Terminal.ending y headers (.ok text, a)) ∧
      ((Answer.ofJson v).body? serializer = none → (t.handler s).2 = y.withApp a)) ∧
    ((Answer.ofJson v).body? serializer = serializer.text? v ↔
      (v = .null → ∃ e, serializer.serialize v = .error e) ∧
        ∀ s, v = .string s → serializer.serialize v = .ok s) ∧
    ((Answer.ofJson v).body? .json = Serializer.json.text? v ↔ v ≠ .null ∧ ∀ s, v ≠ .string s) := by
  refine ⟨?_, ?_, Answer.body?_ofJson_iff, Answer.body?_ofJson_json_iff⟩
  · intro cs d e m c c' h run hserializer isOpen room
    rw [deliverWith_of_reply h run isOpen room, hserializer, Reply.frames_ofJson]
  · intro t s y a h ht hserializer hopen
    subst hserializer
    exact ⟨fun text htext ↦ h.handler_of_body ht hopen htext, h.handler_of_no_body ht⟩

def answering (v : Json) : Callbacks Unit where
  onText := some fun _ _ ↦ pure (.ofJson v)
  onBinary := some fun _ _ ↦ pure (.ofJson v)

theorem plain_values_serialized :
    let queued v := ((answering v).deliver (.text "x") Traffic.narrowChannel).2.outbox.queued
    let body v := ((Terminal.plain fun _ s ↦ (.ok (.ofJson v), s)).handler
      (⟨.ofRequest rootRequest.head, freshWorld ()⟩ : Scene Unit)).2.exchange.body
    queued .null = [.text "null"] ∧ body .null = none ∧
      queued (.string "s") = [.text "\"s\""] ∧
      body (.string "s") = some (Text.Utf8.encode "s") := by
  decide

end Callbacks

end WebDispatch
