import WebDispatch.Proofs.AliasHistory
import WebDispatch.Proofs.JsonGrammar
import WebDispatch.Proofs.SoundRoutes
import WebDispatch.Proofs.UnitOfWork
import WebDispatch.Proofs.Utf8Decoding

namespace WebDispatch

variable {σ : Type}

/-! ### Bodies as texts and as JSON -/

theorem Text.Utf8.decode_eq_ok_iff {bs : Bytes} {s : String} :
    decode bs = .ok s ↔ bs = encode s := by
  rw [← decode?_eq_some_iff, decode?]
  cases decode bs with
  | ok t => exact ⟨congrArg Except.toOption, fun h ↦ congrArg Except.ok (Option.some.inj h)⟩
  | error f =>
    refine ⟨congrArg Except.toOption, fun h ↦ ?_⟩
    cases h

namespace Entity

def IsText (e : Entity) : Prop :=
  ∃ s, e.data = Text.Utf8.encode s

/-- A body that is nothing but blanks, or JSON. -/
def IsJson (e : Entity) : Prop :=
  (∀ b ∈ e.data, isJsonBlank b = true) ∨
    ∃ s v, e.data = Text.Utf8.encode s ∧ Json.Grammar.Denotes s v

theorem asString_of_encode {e : Entity} {s : String} (h : e.data = Text.Utf8.encode s) :
    e.asString = .ok s := by
  rw [asString, Text.Utf8.decode_eq_ok_iff.2 h]

theorem asString_of_error {e : Entity} {f : Text.Utf8.Fault}
    (h : Text.Utf8.decode e.data = .error f) :
    e.asString = .error (.malformedEntity ("body is not UTF-8: " ++ f.message)) := by
  rw [asString, h]

theorem not_isText_iff {e : Entity} :
    ¬ e.IsText ↔ ∃ f, Text.Utf8.decode e.data = .error f := by
  simp only [IsText, ← Text.Utf8.decode_eq_ok_iff]
  cases Text.Utf8.decode e.data <;> simp

theorem asJson_of_blank {e : Entity} (h : ∀ b ∈ e.data, isJsonBlank b = true) :
    e.asJson = .ok .null := by
  rw [asJson, if_pos (List.all_eq_true.2 h)]

theorem asJson_of_denotes {e : Entity} (hblank : ¬ ∀ b ∈ e.data, isJsonBlank b = true) {s : String}
    {v : Json} (h : e.data = Text.Utf8.encode s) (hv : Json.Grammar.Denotes s v) :
    e.asJson = .ok v := by
  rw [asJson, if_neg fun hall ↦ hblank (List.all_eq_true.1 hall),
    Text.Utf8.decode?_eq_some_iff.2 h, Option.bind_some, Json.Grammar.parse?_eq_some_iff.2 hv]

theorem asJson_of_not_isJson {e : Entity} (h : ¬ e.IsJson) :
    e.asJson = .error (.malformedEntity ("body is not JSON: " ++ e.jsonFault)) := by
  rw [IsJson, not_or] at h
  have hnone : (Text.Utf8.decode? e.data).bind Json.Parser.parse? = none := by
    rw [Option.bind_eq_none_iff]
    intro s hs
    refine Option.eq_none_iff_forall_ne_some.2 fun v hv ↦ h.2 ⟨s, v, ?_, ?_⟩
    · exact Text.Utf8.decode?_eq_some_iff.1 hs
    · exact Json.Grammar.parse?_eq_some_iff.1 hv
  rw [asJson, if_neg fun hall ↦ h.1 (List.all_eq_true.1 hall), hnone]

end Entity

/-! ### One resolver after the other -/

namespace Injections

variable {processors : List (PostProcessor σ)} {x : Option Exchange} {r : Resolver σ} {a b : σ}

theorem resolveAll_nil : resolveAll processors x [] a = (.ok [], a) := rfl

theorem resolveAll_of_ok {v w : Injected σ} {c : σ} (h : r.resolve x a = (.ok v, b))
    (hv : PostProcessor.runAll processors v b = (w, c)) (rs : List (Resolver σ)) :
    resolveAll processors x (r :: rs) a =
      match resolveAll processors x rs c with
      | (.ok values, d) => (.ok (w :: values), d)
      | (.error e, d) => (.error e, d) := by
  simp only [resolveAll, bind, StateT.bind, h, hv]
  rcases resolveAll processors x rs c with ⟨_ | _, d⟩ <;> rfl

theorem resolveAll_of_error {e : Error} (h : r.resolve x a = (.error e, b))
    (rs : List (Resolver σ)) : resolveAll processors x (r :: rs) a = (.error e, b) := by
  simp only [resolveAll, bind, StateT.bind, h]
  rfl

end Injections

namespace Injector

/-! ### What one specifier gives -/

/-- A call of the provider of a key, or of the post-processor at a place. -/
inductive Call
  | provider (key name : String)
  | processor (place : Nat)
  deriving DecidableEq, Repr

/-- What a specifier gives for a body, in a state of the application: the calls that it takes, the
value, and the state afterwards. -/
inductive Gives (i : Injector σ) (e : Entity) (a : σ) :
    Target → List Call → Injected σ → σ → Prop
  | nothing : Gives i e a .nothing [] none a
  | text {s : String} (h : e.data = Text.Utf8.encode s) :
      Gives i e a (.keyed entityKey "string") [] (some (.text s)) a
  | blank (h : ∀ b ∈ e.data, Entity.isJsonBlank b = true) :
      Gives i e a (.keyed entityKey "json") [] none a
  | null {s : String} (h : e.data = Text.Utf8.encode s) (hv : Json.Grammar.Denotes s .null) :
      Gives i e a (.keyed entityKey "json") [] none a
  | json {s : String} {v : Json} (hblank : ¬ ∀ b ∈ e.data, Entity.isJsonBlank b = true)
      (h : e.data = Text.Utf8.encode s) (hv : Json.Grammar.Denotes s v) (hne : v ≠ .null) :
      Gives i e a (.keyed entityKey "json") [] (some (.json v)) a
  | form : Gives i e a (.keyed entityKey "form") [] (some (.form e.asForm)) a
  | bytes {kind : String} (h : kind ∉ ["string", "json", "form"]) :
      Gives i e a (.keyed entityKey kind) [] (some (.bytes e.data)) a
  | provided {key name : String} {before after : List (Provider σ)} {p : Provider σ}
      {v : Injected σ} {b : σ} (hkey : key ≠ entityKey) (h : i.providers = before ++ p :: after)
      (hp : p.key = key) (hlast : ∀ q ∈ after, q.key ≠ key) (hget : p.get name a = (v, b)) :
      Gives i e a (.keyed key name) [.provider key name] v b
  | unprovided {key name : String} (hkey : key ≠ entityKey) (h : ∀ p ∈ i.providers, p.key ≠ key) :
      Gives i e a (.keyed key name) [] none a

/-- A specifier that reads a body as what it is not, with the error: it gives the words of the
decoder. -/
inductive Malformed (e : Entity) : Target → Error → Prop
  | text {f : Text.Utf8.Fault} (h : Text.Utf8.decode e.data = .error f) :
      Malformed e (.keyed entityKey "string")
        (.malformedEntity ("body is not UTF-8: " ++ f.message))
  | json (h : ¬ e.IsJson) : Malformed e (.keyed entityKey "json")
      (.malformedEntity ("body is not JSON: " ++ e.jsonFault))

theorem exists_malformed_iff {e : Entity} {t : Target} :
    (∃ error, Malformed e t error) ↔
      t = .keyed entityKey "string" ∧ ¬ e.IsText ∨ t = .keyed entityKey "json" ∧ ¬ e.IsJson := by
  constructor
  · rintro ⟨error, ⟨h⟩ | ⟨h⟩⟩
    · exact .inl ⟨rfl, Entity.not_isText_iff.2 ⟨_, h⟩⟩
    · exact .inr ⟨rfl, h⟩
  · rintro (⟨rfl, h⟩ | ⟨rfl, h⟩)
    · obtain ⟨f, hf⟩ := Entity.not_isText_iff.1 h
      exact ⟨_, .text hf⟩
    · exact ⟨_, .json h⟩

theorem provider?_eq_some_iff {i : Injector σ} {key : String} {p : Provider σ} :
    i.provider? key = some p ↔ p.key = key ∧
      ∃ before after, i.providers = before ++ p :: after ∧ ∀ q ∈ after, q.key ≠ key := by
  rw [provider?, List.find?_eq_some_iff_append, decide_eq_true_iff]
  refine and_congr_right fun _ ↦ ⟨?_, ?_⟩
  · rintro ⟨after, before, hsplit, hafter⟩
    refine ⟨before.reverse, after.reverse, ?_, by simpa using hafter⟩
    rw [← List.reverse_reverse i.providers, hsplit]
    simp
  · rintro ⟨before, after, hsplit, hafter⟩
    exact ⟨after.reverse, before.reverse, by simp [hsplit], by simpa using hafter⟩

theorem provider?_eq_none_iff {i : Injector σ} {key : String} :
    i.provider? key = none ↔ ∀ p ∈ i.providers, p.key ≠ key := by
  simp [provider?]

theorem ofSuffix_raw {kind : String} (h : kind ∉ ["string", "json", "form"]) :
    EntityKind.ofSuffix kind = .raw := by
  simp only [List.mem_cons, List.not_mem_nil, or_false, not_or] at h
  rw [EntityKind.ofSuffix, if_neg h.1, if_neg h.2.1, if_neg h.2.2]

theorem resolve_entity (i : Injector σ) (kind : String) (x : Exchange) (a : σ) :
    ((Target.keyed entityKey kind).resolver i).resolve (some x) a =
      ((EntityKind.ofSuffix kind).read x.entity, a) := by
  rw [Target.resolver, if_pos rfl]
  rfl

theorem resolve_string (i : Injector σ) (x : Exchange) (a : σ) :
    ((Target.keyed entityKey "string").resolver i).resolve (some x) a =
      (x.entity.asString.map fun s ↦ some (.text s), a) :=
  i.resolve_entity "string" x a

theorem resolve_json (i : Injector σ) (x : Exchange) (a : σ) :
    ((Target.keyed entityKey "json").resolver i).resolve (some x) a =
      (EntityKind.json.read x.entity, a) :=
  i.resolve_entity "json" x a

theorem resolve_keyed (i : Injector σ) {key : String} (h : key ≠ entityKey) (name : String)
    (x : Exchange) (a : σ) :
    ((Target.keyed key name).resolver i).resolve (some x) a =
      match i.provider? key with
      | some p => (.ok (p.get name a).1, (p.get name a).2)
      | none => (.ok none, a) := by
  rw [Target.resolver, if_neg h]
  cases i.provider? key <;> rfl

theorem Gives.resolve_eq {i : Injector σ} {x : Exchange} {a : σ} {t : Target} {calls : List Call}
    {v : Injected σ} {b : σ} (h : Gives i x.entity a t calls v b) :
    (t.resolver i).resolve (some x) a = (.ok v, b) := by
  cases h with
  | nothing => rfl
  | text h =>
    rw [resolve_string, Entity.asString_of_encode h]
    rfl
  | blank h =>
    rw [resolve_json, EntityKind.read, Entity.asJson_of_blank h]
    rfl
  | null h hv =>
    have hnull : x.entity.asJson = .ok .null := by
      by_cases hblank : ∀ b ∈ x.entity.data, Entity.isJsonBlank b = true
      · exact Entity.asJson_of_blank hblank
      · exact Entity.asJson_of_denotes hblank h hv
    rw [resolve_json, EntityKind.read, hnull]
    rfl
  | @json s v hblank h hv hne =>
    rw [resolve_json, EntityKind.read, Entity.asJson_of_denotes hblank h hv]
    cases v <;> first | rfl | exact absurd rfl hne
  | form => exact i.resolve_entity "form" x a
  | bytes h =>
    rw [resolve_entity, ofSuffix_raw h]
    rfl
  | provided hkey h hp hlast hget =>
    rw [resolve_keyed i hkey, provider?_eq_some_iff.2 ⟨hp, _, _, h, hlast⟩]
    simp only [hget]
  | unprovided hkey h => rw [resolve_keyed i hkey, provider?_eq_none_iff.2 h]

theorem Malformed.resolve_eq {i : Injector σ} {x : Exchange} {t : Target} {e : Error}
    (h : Malformed x.entity t e) (a : σ) : (t.resolver i).resolve (some x) a = (.error e, a) := by
  cases h with
  | text h =>
    rw [resolve_string, Entity.asString_of_error h]
    rfl
  | json h =>
    rw [resolve_json, EntityKind.read, Entity.asJson_of_not_isJson h]
    rfl

theorem gives_json_or_malformed (i : Injector σ) (e : Entity) (a : σ) :
    (∃ v, Gives i e a (.keyed entityKey "json") [] v a) ∨
      ∃ error, Malformed e (.keyed entityKey "json") error := by
  by_cases hjson : e.IsJson
  · left
    by_cases hblank : ∀ b ∈ e.data, Entity.isJsonBlank b = true
    · exact ⟨_, .blank hblank⟩
    · obtain ⟨s, v, h, hv⟩ := hjson.resolve_left hblank
      by_cases hne : v = .null
      · exact ⟨_, .null h (hne ▸ hv)⟩
      · exact ⟨_, .json hblank h hv hne⟩
  · exact .inr ⟨_, .json hjson⟩

theorem gives_or_malformed (i : Injector σ) (e : Entity) (a : σ) (t : Target) :
    (∃ calls v b, Gives i e a t calls v b) ∨ ∃ error, Malformed e t error := by
  rcases t with _ | ⟨key, name⟩
  · exact .inl ⟨_, _, _, .nothing⟩
  by_cases hkey : key = entityKey
  · subst hkey
    by_cases hkind : name ∈ ["string", "json", "form"]
    · simp only [List.mem_cons, List.not_mem_nil, or_false] at hkind
      rcases hkind with rfl | rfl | rfl
      · by_cases htext : e.IsText
        · obtain ⟨s, hs⟩ := htext
          exact .inl ⟨_, _, _, .text hs⟩
        · exact .inr (exists_malformed_iff.2 (.inl ⟨rfl, htext⟩))
      · refine (i.gives_json_or_malformed e a).imp_left ?_
        rintro ⟨v, hv⟩
        exact ⟨_, v, _, hv⟩
      · exact .inl ⟨_, _, _, .form⟩
    · exact .inl ⟨_, _, _, .bytes hkind⟩
  · left
    cases hprovider : i.provider? key with
    | some p =>
      obtain ⟨hp, before, after, h, hlast⟩ := provider?_eq_some_iff.1 hprovider
      exact ⟨_, _, _, .provided hkey h hp hlast rfl⟩
    | none => exact ⟨_, _, _, .unprovided hkey (provider?_eq_none_iff.1 hprovider)⟩

/-! ### Post-processing -/

/-- What post-processors make of a value, with the place of the first of them: nothing is asked
about null, and each takes the value that the one before it made. -/
inductive Processed : List (PostProcessor σ) → Nat → Injected σ → σ →
    List Call → Injected σ → σ → Prop
  | null {ps : List (PostProcessor σ)} {place : Nat} {a : σ} : Processed ps place none a [] none a
  | done {place : Nat} {v : Item σ} {a : σ} : Processed [] place (some v) a [] (some v) a
  | step {p : PostProcessor σ} {ps : List (PostProcessor σ)} {place : Nat} {item : Item σ}
      {a b c : σ} {v w : Injected σ} {calls : List Call} (call : p item a = (v, b))
      (others : Processed ps (place + 1) v b calls w c) :
      Processed (p :: ps) place (some item) a (.processor place :: calls) w c

theorem Processed.runAll_eq {ps : List (PostProcessor σ)} {place : Nat} {v w : Injected σ} {a b : σ}
    {calls : List Call} (h : Processed ps place v a calls w b) :
    PostProcessor.runAll ps v a = (w, b) := by
  induction h with
  | @null ps => cases ps <;> rfl
  | done => rfl
  | @step p ps place item a b c v w calls call others ih =>
    have hrun : PostProcessor.runAll (p :: ps) (some item) a =
        PostProcessor.runAll ps (p item a).1 (p item a).2 := rfl
    rw [hrun, call]
    exact ih

theorem exists_processed (ps : List (PostProcessor σ)) (place : Nat) (v : Injected σ) (a : σ) :
    ∃ calls w b, Processed ps place v a calls w b := by
  induction ps generalizing place v a with
  | nil =>
    cases v with
    | none => exact ⟨_, _, _, .null⟩
    | some item => exact ⟨_, _, _, .done⟩
  | cons p ps ih =>
    cases v with
    | none => exact ⟨_, _, _, .null⟩
    | some item =>
      obtain ⟨calls, w, b, h⟩ := ih (place + 1) (p item a).1 (p item a).2
      exact ⟨_, _, _, .step rfl h⟩

/-! ### All values of a function -/

/-- What specifiers give in order: for each its value, post-processed before the next is asked. -/
inductive Resolves (i : Injector σ) (e : Entity) : List Target → σ →
    List Call → List (Injected σ) → σ → Prop
  | nil {a : σ} : Resolves i e [] a [] [] a
  | cons {t : Target} {ts : List Target} {a b c d : σ} {asked processed rest : List Call}
      {v w : Injected σ} {values : List (Injected σ)} (value : Gives i e a t asked v b)
      (processing : Processed i.processors 0 v b processed w c)
      (others : Resolves i e ts c rest values d) :
      Resolves i e (t :: ts) a (asked ++ (processed ++ rest)) (w :: values) d

variable {i : Injector σ} {x : Exchange} {ts : List Target} {a b : σ} {calls : List Call}
  {values : List (Injected σ)}

theorem Resolves.length_eq {e : Entity} (h : Resolves i e ts a calls values b) :
    values.length = ts.length := by
  induction h with
  | nil => rfl
  | cons _ _ _ ih => rw [List.length_cons, List.length_cons, ih]

/-- With other resolvers behind, so that it tells both of a whole list and of what is before a
specifier that cannot be read. -/
theorem Resolves.resolveAll_append (h : Resolves i x.entity ts a calls values b)
    (rs : List (Resolver σ)) :
    Injections.resolveAll i.processors (some x) (ts.map (·.resolver i) ++ rs) a =
      match Injections.resolveAll i.processors (some x) rs b with
      | (.ok others, c) => (.ok (values ++ others), c)
      | (.error e, c) => (.error e, c) := by
  induction h with
  | nil =>
    simp only [List.map_nil, List.nil_append]
    split <;> assumption
  | @cons t ts a b c d asked processed rest v w values value processing others ih =>
    rw [List.map_cons, List.cons_append,
      Injections.resolveAll_of_ok value.resolve_eq processing.runAll_eq, ih]
    cases Injections.resolveAll i.processors (some x) rs d with
    | mk result e => cases result <;> rfl

theorem Resolves.resolveAll_eq (h : Resolves i x.entity ts a calls values b) :
    Injections.resolveAll i.processors (some x) (ts.map (·.resolver i)) a = (.ok values, b) := by
  simpa only [List.append_nil, Injections.resolveAll_nil] using h.resolveAll_append []

theorem Resolves.resolveAll_stop (h : Resolves i x.entity ts a calls values b) {t : Target}
    {e : Error} (ht : Malformed x.entity t e) (later : List Target) :
    Injections.resolveAll i.processors (some x) ((ts ++ t :: later).map (·.resolver i)) a =
      (.error e, b) := by
  rw [List.map_append, List.map_cons, h.resolveAll_append,
    Injections.resolveAll_of_error (ht.resolve_eq b)]

theorem resolves_or_stops (i : Injector σ) (e : Entity) (ts : List Target) (a : σ) :
    (∃ calls values b, Resolves i e ts a calls values b) ∨
      ∃ earlier t later calls values b error, ts = earlier ++ t :: later ∧
        Resolves i e earlier a calls values b ∧ Malformed e t error := by
  induction ts generalizing a with
  | nil => exact .inl ⟨_, _, _, .nil⟩
  | cons t ts ih =>
    rcases gives_or_malformed i e a t with ⟨asked, v, b, value⟩ | ⟨error, ht⟩
    · obtain ⟨processed, w, c, processing⟩ := exists_processed i.processors 0 v b
      rcases ih c with ⟨rest, values, d, others⟩ |
        ⟨earlier, t', later, rest, values, d, error, rfl, others, ht'⟩
      · exact .inl ⟨_, _, _, .cons value processing others⟩
      · exact .inr ⟨t :: earlier, t', later, _, _, _, error, rfl,
          .cons value processing others, ht'⟩
    · exact .inr ⟨[], t, ts, [], [], a, error, rfl, .nil, ht⟩

theorem resolveAll_eq_ok_iff :
    Injections.resolveAll i.processors (some x) (ts.map (·.resolver i)) a = (.ok values, b) ↔
      ∃ calls, Resolves i x.entity ts a calls values b := by
  constructor
  · intro heq
    rcases resolves_or_stops i x.entity ts a with ⟨calls, others, c, h⟩ |
      ⟨earlier, t, later, calls, others, c, e, rfl, h, ht⟩
    · rw [h.resolveAll_eq] at heq
      cases heq
      exact ⟨calls, h⟩
    · rw [h.resolveAll_stop ht] at heq
      cases heq
  · rintro ⟨calls, h⟩
    exact h.resolveAll_eq

theorem resolveAll_eq_error_iff {e : Error} :
    Injections.resolveAll i.processors (some x) (ts.map (·.resolver i)) a = (.error e, b) ↔
      ∃ earlier t later calls values, ts = earlier ++ t :: later ∧
        Resolves i x.entity earlier a calls values b ∧ Malformed x.entity t e := by
  constructor
  · intro heq
    rcases resolves_or_stops i x.entity ts a with ⟨calls, values, c, h⟩ |
      ⟨earlier, t, later, calls, values, c, e', rfl, h, ht⟩
    · rw [h.resolveAll_eq] at heq
      cases heq
    · rw [h.resolveAll_stop ht] at heq
      cases heq
      exact ⟨earlier, t, later, calls, values, rfl, h, ht⟩
  · rintro ⟨earlier, t, later, calls, values, rfl, h, ht⟩
    exact h.resolveAll_stop ht later

theorem Gives.not_malformed {t : Target} {v : Injected σ} (h : Gives i x.entity a t calls v b)
    (e : Error) : ¬ Malformed x.entity t e := fun ht ↦ by
  have hok := h.resolve_eq
  rw [ht.resolve_eq] at hok
  cases hok

theorem Resolves.not_malformed (h : Resolves i x.entity ts a calls values b) {t : Target}
    (ht : t ∈ ts) (e : Error) : ¬ Malformed x.entity t e := by
  induction h with
  | nil => cases ht
  | cons value _ _ ih =>
    rcases List.mem_cons.1 ht with rfl | ht
    · exact value.not_malformed e
    · exact ih ht

theorem exists_resolveAll_eq_error_iff :
    (∃ e b, Injections.resolveAll i.processors (some x) (ts.map (·.resolver i)) a =
        (.error e, b)) ↔
      ∃ t ∈ ts, ∃ e, Malformed x.entity t e := by
  constructor
  · rintro ⟨e, b, heq⟩
    obtain ⟨earlier, t, later, calls, values, rfl, -, ht⟩ := resolveAll_eq_error_iff.1 heq
    exact ⟨t, by simp, e, ht⟩
  · rintro ⟨t, hmem, e, ht⟩
    rcases resolves_or_stops i x.entity ts a with ⟨calls, values, b, h⟩ |
      ⟨earlier, t', later, calls, values, b, e', rfl, h, ht'⟩
    · exact absurd ht (h.not_malformed hmem e)
    · exact ⟨e', b, h.resolveAll_stop ht' later⟩

/-! ### The calls -/

def Call.asked? : Call → Option (String × String)
  | provider key name => some (key, name)
  | processor _ => none

def Target.asks? (i : Injector σ) : Target → Option (String × String)
  | nothing => none
  | keyed key name => if key = entityKey then none else (i.provider? key).map fun _ ↦ (key, name)

theorem Gives.asked_eq {e : Entity} {t : Target} {v : Injected σ} (h : Gives i e a t calls v b) :
    calls.filterMap Call.asked? = (t.asks? i).toList := by
  cases h with
  | provided hkey h hp hlast =>
    rw [Target.asks?, if_neg hkey, provider?_eq_some_iff.2 ⟨hp, _, _, h, hlast⟩]
    rfl
  | unprovided hkey h =>
    rw [Target.asks?, if_neg hkey, provider?_eq_none_iff.2 h]
    rfl
  | nothing => rfl
  | _ =>
    rw [Target.asks?, if_pos rfl]
    rfl

theorem Processed.asked_eq {ps : List (PostProcessor σ)} {place : Nat} {v w : Injected σ}
    (h : Processed ps place v a calls w b) : calls.filterMap Call.asked? = [] := by
  induction h with
  | null => rfl
  | done => rfl
  | step _ _ ih => rw [List.filterMap_cons, ih]; rfl

theorem Resolves.asked_eq {e : Entity} (h : Resolves i e ts a calls values b) :
    calls.filterMap Call.asked? = ts.filterMap (Target.asks? i) := by
  induction h with
  | nil => rfl
  | @cons t ts _ _ _ _ _ _ _ _ _ _ value processing _ ih =>
    rw [List.filterMap_append, List.filterMap_append, value.asked_eq, processing.asked_eq, ih,
      List.nil_append, List.filterMap_cons]
    cases t.asks? i <;> rfl

/-- A log to which each provider and each post-processor adds its own call. -/
structure Records (log : σ → List Call) (i : Injector σ) : Prop where
  provider : ∀ p ∈ i.providers, ∀ name a,
    log (p.get name a).2 = log a ++ [.provider p.key name]
  processor : ∀ place p, i.processors[place]? = some p → ∀ item a,
    log (p item a).2 = log a ++ [.processor place]

variable {log : σ → List Call}

theorem Gives.logs (hlog : Records log i) {e : Entity} {t : Target} {v : Injected σ}
    (h : Gives i e a t calls v b) : log b = log a ++ calls := by
  cases h with
  | @provided key name before after p v b hkey h hp hlast hget =>
    have hcall := hlog.provider p (by simp [h]) name a
    rwa [hget, hp] at hcall
  | _ => exact (List.append_nil _).symm

theorem Processed.logs (hlog : Records log i) {ps : List (PostProcessor σ)} {place : Nat}
    {v w : Injected σ} (h : Processed ps place v a calls w b)
    (hps : i.processors.drop place = ps) : log b = log a ++ calls := by
  -- A place counts from the first processor of all, which is not the first of those still to come.
  induction h with
  | null => exact (List.append_nil _).symm
  | done => exact (List.append_nil _).symm
  | @step p ps place item a b c v w calls call others ih =>
    have hplace : i.processors[place]? = some p := by
      rw [← List.head?_drop, hps, List.head?_cons]
    have hrest : i.processors.drop (place + 1) = ps := by
      rw [← List.tail_drop, hps, List.tail_cons]
    have hcall := hlog.processor place p hplace item a
    rw [call] at hcall
    rw [ih hrest, hcall, List.append_assoc, List.singleton_append]

theorem Resolves.logs (hlog : Records log i) {e : Entity} (h : Resolves i e ts a calls values b) :
    log b = log a ++ calls := by
  induction h with
  | nil => exact (List.append_nil _).symm
  | cons value processing _ ih =>
    rw [ih, processing.logs hlog rfl, value.logs hlog, List.append_assoc, List.append_assoc]

/-! ### The parameters of a function -/

def parameters (providers : List (Provider σ)) (processors : List (PostProcessor σ))
    (history : List (String × String)) (specifiers : List String) : Injections σ :=
  ((start providers processors).withAliases history).bind specifiers

theorem exists_targets (history : List (String × String)) (specifiers : List String) :
    ∃ targets, List.Forall₂ (Denotes history) specifiers targets := by
  have hdenotes : ∀ specifier ∈ specifiers, ∃ t, Denotes history specifier t :=
    fun specifier _ ↦ (existsUnique_denotes history specifier).exists
  obtain ⟨targets, h⟩ :=
    exists_forall₂ (R := fun t specifier ↦ Denotes history specifier t) hdenotes
  exact ⟨targets, h.flip⟩

theorem parameters_eq {providers : List (Provider σ)} {processors : List (PostProcessor σ)}
    {history : List (String × String)} {specifiers : List String} {targets : List Target}
    (h : List.Forall₂ (Denotes history) specifiers targets) :
    parameters providers processors history specifiers =
      ⟨targets.map (·.resolver (start providers processors)), processors⟩ := by
  rw [parameters, bind, withAliases_eq]
  congr 1
  induction h with
  | nil => rfl
  | cons ht _ ih => rw [List.map_cons, List.map_cons, ih, ← withAliases_eq, ht.resolveSpec_eq]

end Injector

theorem WrapperEntry.wrap_of_not_injected {w : WrapperEntry σ} {inner : Handler σ} {u s : Scene σ}
    {e : Error} {b : σ} (haccepted : Run.accepted w.predicate u = (.ok true, s))
    (h : w.injections.resolve (some s.exchange) s.world.app = (.error e, b)) :
    w.wrap inner u = (.error e, s.withApp b) := by
  have hinjected : Run.injected w.injections s = (.error e, s.withApp b) := by
    rw [Run.injected_apply, h]
  rw [wrap, Run.bind_of_ok haccepted, if_pos rfl, Run.bind_of_error hinjected]

namespace Injector

/-- The parameters of a function are resolved from left to right. Each specifier that denotes a
provider asks it once, and its value is post-processed before the next is resolved. That fails only
at a specifier, behind whatever aliases, that reads the body as what it is not: then with the error
of the first of these, with the calls of those before it, and without running the function. -/
theorem resolve_positional (providers : List (Provider σ)) (processors : List (PostProcessor σ))
    (history : List (String × String)) (specifiers : List String) (x : Exchange) (a : σ) :
    (∃ targets, List.Forall₂ (Denotes history) specifiers targets ∧
      (∀ values b, (parameters providers processors history specifiers).resolve (some x) a =
          (.ok values, b) ↔
        ∃ calls, Resolves (start providers processors) x.entity targets a calls values b) ∧
      ∀ e b, (parameters providers processors history specifiers).resolve (some x) a =
          (.error e, b) ↔
        ∃ earlier t later calls values, targets = earlier ++ t :: later ∧
          Resolves (start providers processors) x.entity earlier a calls values b ∧
          Malformed x.entity t e) ∧
    ((∃ e b, (parameters providers processors history specifiers).resolve (some x) a =
        (.error e, b)) ↔
      ∃ specifier ∈ specifiers,
        Denotes history specifier (.keyed entityKey "string") ∧ ¬ x.entity.IsText ∨
        Denotes history specifier (.keyed entityKey "json") ∧ ¬ x.entity.IsJson) ∧
    (∀ ts calls values b, Resolves (start providers processors) x.entity ts a calls values b →
      values.length = ts.length ∧
      calls.filterMap Call.asked? = ts.filterMap (Target.asks? (start providers processors)) ∧
      ∀ log, Records log (start providers processors) → log b = log a ++ calls) ∧
    ∀ (s : Scene σ) (e : Error) (b : σ), s.exchange = x → s.world.app = a →
      (parameters providers processors history specifiers).resolve (some x) a = (.error e, b) →
      (∀ t : Terminal σ, t.injections = parameters providers processors history specifiers →
        t.invoke s = (.error e, s.withApp b)) ∧
      ∀ (w : WrapperEntry σ) (inner : Handler σ) (u : Scene σ),
        w.injections = parameters providers processors history specifiers →
        Run.accepted w.predicate u = (.ok true, s) → w.wrap inner u = (.error e, s.withApp b) := by
  obtain ⟨targets, htargets⟩ := exists_targets history specifiers
  have hresolve : (parameters providers processors history specifiers).resolve (some x) a =
      Injections.resolveAll (start providers processors).processors (some x)
        (targets.map (·.resolver (start providers processors))) a := by
    rw [parameters_eq htargets]
    rfl
  refine ⟨⟨targets, htargets, fun values b ↦ ?_, fun e b ↦ ?_⟩, ?_,
    fun ts calls values b h ↦ ?_, ?_⟩
  · rw [hresolve, resolveAll_eq_ok_iff]
  · rw [hresolve, resolveAll_eq_error_iff]
  · rw [hresolve, exists_resolveAll_eq_error_iff]
    constructor
    · rintro ⟨t, hmem, hmalformed⟩
      obtain ⟨specifier, hspecifier, ht⟩ := exists_of_mem_forall₂ htargets hmem
      refine ⟨specifier, hspecifier, ?_⟩
      rcases exists_malformed_iff.1 hmalformed with ⟨rfl, h⟩ | ⟨rfl, h⟩
      · exact .inl ⟨ht, h⟩
      · exact .inr ⟨ht, h⟩
    · rintro ⟨specifier, hspecifier, hmalformed⟩
      obtain ⟨t, hmem, ht⟩ := exists_of_mem_forall₂ htargets.flip hspecifier
      refine ⟨t, hmem, exists_malformed_iff.2 ?_⟩
      refine hmalformed.imp (fun h ↦ ⟨?_, h.2⟩) fun h ↦ ⟨?_, h.2⟩
      · exact (existsUnique_denotes history specifier).unique ht h.1
      · exact (existsUnique_denotes history specifier).unique ht h.1
  · exact ⟨h.length_eq, h.asked_eq, fun log hlog ↦ h.logs hlog⟩
  · rintro s e b rfl rfl herror
    refine ⟨fun t ht ↦ ?_, fun w inner u hw haccepted ↦ ?_⟩
    · exact Terminal.invoke_of_not_injected (by rw [ht, herror])
    · exact WrapperEntry.wrap_of_not_injected haccepted (by rw [hw, herror])

-- Nothing is asked for behind the body, and it fails as a text, not as JSON.
example (x : Exchange) :
    let p : Provider (List String) := ⟨"p", fun name a ↦ (some (.text name), a ++ [name])⟩
    (parameters [p] [] [("one", "p:first"), ("body", "$entity:string")]
        ["one", "none", "body", "$entity:json", "p:last"]).resolve
          (some { x with entity := { data := [0xFF] } }) [] =
      (.error (.malformedEntity
        "body is not UTF-8: invalid utf-8 sequence of 1 bytes from index 0"), ["first"]) := by
  cbv

end Injector

end WebDispatch
