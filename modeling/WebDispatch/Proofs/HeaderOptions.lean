import Mathlib.Data.List.Nodup
import WebDispatch.Options.Config

namespace WebDispatch

variable {σ : Type}

namespace OptionKey

theorem text_injective {k k' : OptionKey} (h : k.text = k'.text) : k = k' := by
  have hparse := parse_text k'
  rw [← h, parse_text] at hparse
  exact Except.ok.inj hparse

theorem parse_eq_ok_iff {name : String} {k : OptionKey} : parse name = .ok k ↔ name = k.text := by
  constructor
  · intro h
    rw [parse] at h
    cases hfind : all.find? fun k ↦ k.text = name with
    | none => rw [hfind] at h; cases h
    | some k' =>
      rw [hfind] at h
      cases h
      exact (of_decide_eq_true (List.find?_some hfind :)).symm
  · rintro rfl
    exact parse_text k

theorem check_eq_ok_iff {k : OptionKey} {v : OptionValue σ} :
    k.check v = .ok () ↔ k.admits v = true := by
  rw [check]
  cases k.admits v <;> simp

theorem admits_headers {v : OptionValue σ} (h : headers.admits v = true) :
    ∃ pairs, v = .map pairs := by
  cases v with
  | map pairs => exact ⟨pairs, rfl⟩
  | _ => cases h

end OptionKey

/-! ### The values of a key -/

namespace Options

variable {o : Options σ}

/-- The values that options give for a key, in order. -/
def given (o : Options σ) (key : OptionKey) : List (OptionValue σ) :=
  (o.entries.filter fun e ↦ e.1 = key.text).map Prod.snd

/-- The headers that count as a registration's own. -/
def ownHeaders (o : Options σ) : List (String × String) :=
  HandlerConfig.pairs (o.given .headers).getLast?

def Admits (e : String × OptionValue σ) : Prop :=
  ∃ key : OptionKey, e.1 = key.text ∧ key.admits e.2 = true

theorem checked_eq_ok_iff {es : List (String × OptionValue σ)}
    {ks : List (OptionKey × OptionValue σ)} :
    checked es = .ok ks ↔
      (∀ k ∈ ks, k.1.admits k.2 = true) ∧ es = ks.map fun k ↦ (k.1.text, k.2) := by
  induction es generalizing ks with
  | nil =>
    constructor
    · rintro ⟨⟩
      exact ⟨fun k hk ↦ (nomatch hk), rfl⟩
    · rintro ⟨-, h⟩
      rw [List.map_eq_nil_iff.1 h.symm]
      rfl
  | cons e es ih =>
    constructor
    · intro h
      rw [checked] at h
      cases hkey : OptionKey.parse e.1 with
      | error _ => rw [hkey] at h; cases h
      | ok key =>
        cases hcheck : key.check e.2 with
        | error _ => simp only [hkey, hcheck, bind, Except.bind] at h; cases h
        | ok _ =>
          cases hrest : checked es with
          | error _ => simp only [hkey, hcheck, hrest, bind, Except.bind] at h; cases h
          | ok rest =>
            simp only [hkey, hcheck, hrest, bind, Except.bind] at h
            cases h
            obtain ⟨hadmits, hes⟩ := ih.1 hrest
            refine ⟨?_, ?_⟩
            · rintro k hk
              rcases List.mem_cons.1 hk with rfl | hk
              · exact OptionKey.check_eq_ok_iff.1 hcheck
              · exact hadmits k hk
            · rw [List.map_cons, ← hes, ← OptionKey.parse_eq_ok_iff.1 hkey]
    · rintro ⟨hadmits, h⟩
      cases ks with
      | nil => cases h
      | cons k ks =>
        obtain ⟨rfl, rfl⟩ := List.cons.inj h
        have hcheck := OptionKey.check_eq_ok_iff.2 (hadmits k List.mem_cons_self)
        have hrest := ih.2 ⟨fun k' hk' ↦ hadmits k' (List.mem_cons_of_mem k hk'), rfl⟩
        simp only [checked, OptionKey.parse_text, hcheck, hrest, bind, Except.bind]
        rfl

theorem exists_checked {es : List (String × OptionValue σ)} (h : ∀ e ∈ es, Admits e) :
    ∃ ks, checked es = .ok ks := by
  suffices ∃ ks : List (OptionKey × OptionValue σ),
      (∀ k ∈ ks, k.1.admits k.2 = true) ∧ es = ks.map fun k ↦ (k.1.text, k.2) by
    obtain ⟨ks, hks⟩ := this
    exact ⟨ks, checked_eq_ok_iff.2 hks⟩
  induction es with
  | nil => exact ⟨[], fun k hk ↦ (nomatch hk), rfl⟩
  | cons e es ih =>
    obtain ⟨key, hkey, hadmits⟩ := h e List.mem_cons_self
    obtain ⟨ks, hks, hes⟩ := ih fun e' he' ↦ h e' (List.mem_cons_of_mem e he')
    refine ⟨(key, e.2) :: ks, fun k hk ↦ ?_, ?_⟩
    · rcases List.mem_cons.1 hk with rfl | hk
      · exact hadmits
      · exact hks k hk
    · rw [List.map_cons, ← hes, ← hkey]

theorem last?_of_checked {ks : List (OptionKey × OptionValue σ)} (h : checked o.entries = .ok ks)
    (key : OptionKey) : last? ks key = (o.given key).getLast? := by
  obtain ⟨-, hes⟩ := checked_eq_ok_iff.1 h
  have hkeys : (fun e : String × OptionValue σ ↦ decide (e.1 = key.text)) ∘
      (fun k : OptionKey × OptionValue σ ↦ (k.1.text, k.2)) = fun k ↦ decide (k.1 = key) := by
    funext k
    exact decide_eq_decide.2 ⟨OptionKey.text_injective, congrArg OptionKey.text⟩
  rw [last?, given, hes, List.filter_map, hkeys, List.map_map, ← List.getLast?_map]
  rfl

end Options

namespace HandlerConfig

variable {o : Options σ} {d : Defaults σ} {config : HandlerConfig σ}

theorem validate_eq_ok_iff : validate o d = .ok config ↔
    (∀ e ∈ o.entries, Options.Admits e) ∧
      ofGiven (fun key ↦ (o.given key).getLast?) d = config := by
  constructor
  · intro h
    rw [validate] at h
    cases hchecked : Options.checked o.entries with
    | error e => rw [hchecked] at h; cases h
    | ok ks =>
      rw [hchecked] at h
      cases h
      obtain ⟨hadmits, hes⟩ := Options.checked_eq_ok_iff.1 hchecked
      refine ⟨fun e he ↦ ?_, ?_⟩
      · rw [hes] at he
        obtain ⟨k, hk, rfl⟩ := List.mem_map.1 he
        exact ⟨k.1, rfl, hadmits k hk⟩
      · rw [← funext (Options.last?_of_checked hchecked)]
  · rintro ⟨hadmits, rfl⟩
    obtain ⟨ks, hks⟩ := Options.exists_checked hadmits
    rw [validate, hks, ← funext (Options.last?_of_checked hks)]
    rfl

theorem headers_of_validate (h : validate o d = .ok config) :
    config.headers = o.ownHeaders.foldl overlay (pairs (d.get? .headers)) := by
  rw [← (validate_eq_ok_iff.1 h).2]
  rfl

theorem contentTypeExplicit_of_validate (h : validate o d = .ok config) :
    config.contentTypeExplicit = o.ownHeaders.any isContentType := by
  rw [← (validate_eq_ok_iff.1 h).2]
  rfl

end HandlerConfig

/-! ### One header more -/

namespace Options

variable {o : Options σ} {pair : String × String}

theorem given_set (o : Options σ) (name : String) (value : OptionValue σ) (key : OptionKey) :
    (o.set name value).given key = o.given key ++ if name = key.text then [value] else [] := by
  by_cases hn : name = key.text <;> simp [set, given, hn]

theorem given_append (es later : List (String × OptionValue σ)) (key : OptionKey) :
    (Options.mk (es ++ later)).given key =
      (Options.mk es).given key ++ (Options.mk later).given key := by
  simp [given]

theorem given_cons (e : String × OptionValue σ) (es : List (String × OptionValue σ))
    (key : OptionKey) :
    (Options.mk (e :: es)).given key =
      (if e.1 = key.text then [e.2] else []) ++ (Options.mk es).given key := by
  by_cases hn : e.1 = key.text <;> simp [given, hn]

theorem given_eq_nil_iff {key : OptionKey} :
    o.given key = [] ↔ ∀ e ∈ o.entries, e.1 ≠ key.text := by
  simp [given, List.filter_eq_nil_iff]

theorem extendHeaders_cons_of_ne {e : String × OptionValue σ} (h : e.1 ≠ OptionKey.headers.text)
    (es : List (String × OptionValue σ)) :
    extendHeaders pair (e :: es) = (extendHeaders pair es).map (e :: ·) := by
  obtain ⟨name, value⟩ := e
  cases value <;> rw [extendHeaders, if_neg h] <;> nofun

theorem not_admits_headers {value : OptionValue σ} (h : ∀ pairs, value ≠ .map pairs) :
    ¬ Admits (OptionKey.headers.text, value) := by
  rintro ⟨key, hkey, hadmits⟩
  obtain rfl : OptionKey.headers = key := OptionKey.text_injective hkey
  obtain ⟨pairs, hpairs⟩ := OptionKey.admits_headers hadmits
  exact h pairs hpairs

theorem extendHeaders_cases (pair : String × String) (es : List (String × OptionValue σ)) :
    (∃ past pairs later, es = past ++ (OptionKey.headers.text, .map pairs) :: later ∧
      (∀ e ∈ past, e.1 ≠ OptionKey.headers.text) ∧ extendHeaders pair es =
        some (past ++ (OptionKey.headers.text, .map (pairs ++ [pair])) :: later)) ∨
    extendHeaders pair es = none ∧
      ((∀ e ∈ es, e.1 ≠ OptionKey.headers.text) ∨ ∃ e ∈ es, ¬ Admits e) := by
  induction es with
  | nil => exact .inr ⟨rfl, .inl fun e he ↦ (nomatch he)⟩
  | cons e es ih =>
    by_cases hn : e.1 = OptionKey.headers.text
    · obtain ⟨name, value⟩ := e
      obtain rfl : name = OptionKey.headers.text := hn
      cases value with
      | map pairs => exact .inl ⟨[], pairs, es, rfl, fun e he ↦ (nomatch he), rfl⟩
      | _ => exact .inr ⟨rfl, .inr ⟨_, List.mem_cons_self, not_admits_headers nofun⟩⟩
    · rw [extendHeaders_cons_of_ne hn]
      rcases ih with ⟨past, pairs, later, rfl, hpast, hextend⟩ | ⟨hextend, hnone⟩
      · refine .inl ⟨e :: past, pairs, later, rfl, List.forall_mem_cons.2 ⟨hn, hpast⟩, ?_⟩
        rw [hextend]
        rfl
      · refine .inr ⟨by rw [hextend]; rfl, hnone.imp (fun h ↦ ?_) fun ⟨e', he', h⟩ ↦ ?_⟩
        · exact List.forall_mem_cons.2 ⟨hn, h⟩
        · exact ⟨e', List.mem_cons_of_mem _ he', h⟩

/-- One header more, among options that pass their checks with it: the options passed before it, and
it comes last in the first value for headers. -/
theorem header_admitted {name value : String}
    (h : ∀ e ∈ (o.header name value).entries, Admits e) :
    (∀ e ∈ o.entries, Admits e) ∧
    (∀ key ≠ .headers, (o.header name value).given key = o.given key) ∧
    ((o.given .headers = [] ∧
        (o.header name value).given .headers = [.map [(name, value)]]) ∨
      ∃ pairs later, o.given .headers = .map pairs :: later ∧
        (o.header name value).given .headers = .map (pairs ++ [(name, value)]) :: later) := by
  rcases extendHeaders_cases (name, value) o.entries with
    ⟨past, pairs, later, ho, hpast, hextend⟩ | ⟨hextend, hnone⟩
  · have hheader : o.header name value =
        ⟨past ++ (OptionKey.headers.text, .map (pairs ++ [(name, value)])) :: later⟩ := by
      rw [header, hextend]
    obtain rfl : o = ⟨past ++ (OptionKey.headers.text, .map pairs) :: later⟩ :=
      congrArg Options.mk ho
    have hmap : Admits (OptionKey.headers.text, OptionValue.map (σ := σ) pairs) :=
      ⟨.headers, rfl, rfl⟩
    have hnil : (Options.mk past).given .headers = [] := given_eq_nil_iff.2 hpast
    rw [hheader] at h ⊢
    simp only [List.forall_mem_append, List.forall_mem_cons] at h ⊢
    refine ⟨⟨h.1, hmap, h.2.2⟩, fun key hkey ↦ ?_,
      .inr ⟨pairs, (Options.mk later).given .headers, ?_, ?_⟩⟩
    · have hne : OptionKey.headers.text ≠ key.text := fun h ↦ hkey (OptionKey.text_injective h).symm
      simp only [given_append, given_cons, if_neg hne]
    · simp only [given_append, given_cons, hnil, if_true]
      rfl
    · simp only [given_append, given_cons, hnil, if_true]
      rfl
  · have hheader : o.header name value = o.set OptionKey.headers.text (.map [(name, value)]) := by
      rw [header, hextend]
    rw [hheader] at h ⊢
    have ho : ∀ e ∈ o.entries, Admits e := fun e he ↦ h e (List.mem_append_left _ he)
    have hnil : o.given .headers = [] :=
      given_eq_nil_iff.2 (hnone.resolve_right fun ⟨e, he, hn⟩ ↦ hn (ho e he))
    refine ⟨ho, fun key hkey ↦ ?_, .inl ⟨hnil, ?_⟩⟩
    · have hne : OptionKey.headers.text ≠ key.text := fun h ↦ hkey (OptionKey.text_injective h).symm
      rw [given_set, if_neg hne, List.append_nil]
    · rw [given_set, hnil, if_pos rfl]
      rfl

theorem ownHeaders_header_of_le {name value : String}
    (h : ∀ e ∈ (o.header name value).entries, Admits e) (hle : (o.given .headers).length ≤ 1) :
    (o.header name value).ownHeaders = o.ownHeaders ++ [(name, value)] := by
  obtain ⟨-, -, ⟨hgiven, hgiven'⟩ | ⟨pairs, later, hgiven, hgiven'⟩⟩ := header_admitted h
  · rw [ownHeaders, ownHeaders, hgiven, hgiven']
    rfl
  · rw [hgiven, List.length_cons] at hle
    obtain rfl := List.eq_nil_of_length_eq_zero (Nat.le_zero.1 (Nat.le_of_succ_le_succ hle))
    rw [ownHeaders, ownHeaders, hgiven, hgiven']
    rfl

theorem ownHeaders_header_of_lt {name value : String}
    (h : ∀ e ∈ (o.header name value).entries, Admits e) (hlt : 1 < (o.given .headers).length) :
    (o.header name value).ownHeaders = o.ownHeaders := by
  obtain ⟨-, -, ⟨hgiven, -⟩ | ⟨pairs, later, hgiven, hgiven'⟩⟩ := header_admitted h
  · rw [hgiven] at hlt
    cases hlt
  · cases later with
    | nil =>
      rw [hgiven] at hlt
      exact absurd hlt (Nat.lt_irrefl 1)
    | cons last later =>
      rw [ownHeaders, ownHeaders, hgiven, hgiven', List.getLast?_cons_cons,
        List.getLast?_cons_cons]

end Options

namespace HandlerConfig

def withHeader (c : HandlerConfig σ) (pair : String × String) : HandlerConfig σ :=
  { c with
    headers := overlay c.headers pair
    contentTypeExplicit := c.contentTypeExplicit || isContentType pair }

theorem mem_withHeader (c : HandlerConfig σ) (pair : String × String) :
    pair ∈ (c.withHeader pair).headers :=
  List.mem_append_right _ List.mem_cons_self

section

variable {given given' : OptionKey → Option (OptionValue σ)} (d : Defaults σ)

theorem ofGiven_congr (hother : ∀ key ≠ .headers, given' key = given key)
    (h : pairs (given' .headers) = pairs (given .headers)) :
    ofGiven given' d = ofGiven given d := by
  simp only [ofGiven, h, hother .template nofun, hother .templateType nofun,
    hother .predicate nofun, hother .rolesAllowed nofun, hother .transactional nofun]

theorem ofGiven_withHeader {pair : String × String}
    (hother : ∀ key ≠ .headers, given' key = given key)
    (h : pairs (given' .headers) = pairs (given .headers) ++ [pair]) :
    ofGiven given' d = (ofGiven given d).withHeader pair := by
  simp only [ofGiven, withHeader, h, List.foldl_append, List.any_append, List.foldl_cons,
    List.foldl_nil, List.any_cons, List.any_nil, Bool.or_false,
    hother .template nofun, hother .templateType nofun, hother .predicate nofun,
    hother .rolesAllowed nofun, hother .transactional nofun]

end

end HandlerConfig

/-! ### Options with one value for headers -/

namespace Options

variable {o : Options σ}

/-- Options whose headers come from one object of JSON or from calls for single headers. -/
inductive Regular : Options σ → Prop
  | empty : Regular empty
  | ofJson {fields : List (String × Json)} {o : Options σ}
      (h : ofJson (.object fields) = .ok o) (nodup : (fields.map Prod.fst).Nodup) : Regular o
  | set {o : Options σ} {name : String} (h : Regular o) (hn : name ≠ OptionKey.headers.text)
      (value : OptionValue σ) : Regular (o.set name value)
  | header {o : Options σ} (h : Regular o) (name value : String) : Regular (o.header name value)

theorem map_eq_ok_iff {ε α β : Type} {f : α → β} {x : Except ε α} {b : β} :
    x.map f = .ok b ↔ ∃ a, x = .ok a ∧ f a = b := by
  cases x <;> simp [Except.map]

theorem ofJson_eq_ok_iff {v : Json} :
    ofJson v = .ok o ↔ ∃ fields, v = .object fields ∧ entriesOfJson fields = .ok o.entries := by
  cases v with
  | object fields =>
    rw [ofJson, map_eq_ok_iff]
    constructor
    · intro h
      obtain ⟨es, hes, ho⟩ := h
      subst ho
      exact ⟨fields, rfl, hes⟩
    · intro h
      obtain ⟨fields', hfields, hes⟩ := h
      cases hfields
      exact ⟨o.entries, hes, rfl⟩
  | _ => simp [ofJson]

theorem entriesOfJson_cons_eq_ok_iff {field : String × Json} {fields : List (String × Json)}
    {es : List (String × OptionValue σ)} :
    entriesOfJson (field :: fields) = .ok es ↔ ∃ value rest,
      valueOfJson field.1 field.2 = .ok value ∧ entriesOfJson fields = .ok rest ∧
        es = (field.1, value) :: rest := by
  rw [entriesOfJson]
  cases hvalue : valueOfJson (σ := σ) field.1 field.2 with
  | error e => simp [bind, Except.bind]
  | ok value =>
    cases hrest : entriesOfJson (σ := σ) fields with
    | error e => simp [bind, Except.bind]
    | ok rest => simp [bind, Except.bind, pure, Except.pure, eq_comm]

theorem names_of_entriesOfJson {fields : List (String × Json)}
    {es : List (String × OptionValue σ)} (h : entriesOfJson fields = .ok es) :
    es.map Prod.fst = fields.map Prod.fst := by
  induction fields generalizing es with
  | nil =>
    cases h
    rfl
  | cons field fields ih =>
    obtain ⟨value, rest, -, hrest, rfl⟩ := entriesOfJson_cons_eq_ok_iff.1 h
    rw [List.map_cons, ih hrest, List.map_cons]

theorem length_given_le_of_nodup (h : (o.entries.map Prod.fst).Nodup) (key : OptionKey) :
    (o.given key).length ≤ 1 := by
  have hcount := List.nodup_iff_count_le_one.1 h key.text
  rw [List.count_eq_length_filter, List.filter_map, List.length_map] at hcount
  rw [given, List.length_map]
  exact hcount

theorem Regular.length_given_le (hr : o.Regular) (h : ∀ e ∈ o.entries, Admits e) :
    (o.given .headers).length ≤ 1 := by
  induction hr with
  | empty => exact Nat.zero_le 1
  | @ofJson fields o hjson nodup =>
    obtain ⟨fields', hfields, hentries⟩ := ofJson_eq_ok_iff.1 hjson
    cases hfields
    apply length_given_le_of_nodup
    rwa [names_of_entriesOfJson hentries]
  | set _ hn value ih =>
    rw [given_set, if_neg hn, List.append_nil]
    exact ih fun e he ↦ h e (List.mem_append_left _ he)
  | header _ name value ih =>
    obtain ⟨ho, -, ⟨-, hgiven⟩ | ⟨pairs, later, hgiven, hgiven'⟩⟩ := header_admitted h
    · rw [hgiven]
      exact Nat.le_refl 1
    · have hle := ih ho
      rw [hgiven, List.length_cons] at hle
      rw [hgiven', List.length_cons]
      exact hle

end Options

namespace HandlerConfig

variable {o : Options σ} {d : Defaults σ} {config : HandlerConfig σ} {name value : String}

/-- A single header comes after all that the options gave before, and is among the headers of the
route, unless there are two values for headers. Then it goes to the first and the last counts, so it
changes nothing. -/
theorem header_accumulates_unless_repeated
    (h : validate (o.header name value) d = .ok config) :
    ∃ before, validate o d = .ok before ∧
      ((o.given .headers).length ≤ 1 →
        config = before.withHeader (name, value) ∧ (name, value) ∈ config.headers) ∧
      (1 < (o.given .headers).length → config = before) ∧
      (o.Regular → (o.given .headers).length ≤ 1) := by
  obtain ⟨hadmits, rfl⟩ := validate_eq_ok_iff.1 h
  obtain ⟨ho, hother, -⟩ := Options.header_admitted hadmits
  have hlast (key : OptionKey) (hkey : key ≠ .headers) :
      ((o.header name value).given key).getLast? = (o.given key).getLast? := by
    rw [hother key hkey]
  refine ⟨_, validate_eq_ok_iff.2 ⟨ho, rfl⟩, fun hle ↦ ?_, fun hlt ↦ ?_, fun hr ↦
    hr.length_given_le ho⟩
  · rw [ofGiven_withHeader d hlast (Options.ownHeaders_header_of_le hadmits hle)]
    exact ⟨rfl, mem_withHeader _ _⟩
  · exact ofGiven_congr d hlast (Options.ownHeaders_header_of_lt hadmits hlt)

theorem header_after_json :
    ∃ o : Options Unit, Options.ofJson (.object [("headers", .object [("A", .string "1")])]) = .ok o ∧
      ∃ config, validate (o.header "B" "2") .initial = .ok config ∧
        ("B", "2") ∈ config.headers := by
  let o : Options Unit := ⟨[("headers", .map [("A", "1")])]⟩
  have hjson : Options.ofJson (.object [("headers", .object [("A", .string "1")])]) = .ok o := rfl
  have hvalid : ∃ config, validate (o.header "B" "2") .initial = .ok config := ⟨_, rfl⟩
  obtain ⟨config, hconfig⟩ := hvalid
  obtain ⟨before, -, haccumulates, -, hregular⟩ := header_accumulates_unless_repeated hconfig
  exact ⟨o, hjson, config, hconfig, (haccumulates (hregular (.ofJson hjson (by decide)))).2⟩

theorem header_lost_after_two_values :
    let o : Options Unit :=
      (Options.empty.set "headers" (.map [("A", "1")])).set "headers" (.map [("B", "2")])
    ∃ config, validate (o.header "X" "1") .initial = .ok config ∧ ("X", "1") ∉ config.headers :=
  ⟨_, rfl, by decide⟩

end HandlerConfig

end WebDispatch
