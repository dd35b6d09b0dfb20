import Mathlib.Data.List.Induction
import WebDispatch.Proofs.HeaderOptions
import WebDispatch.Proofs.SessionAnnouncement
import WebDispatch.Proofs.SoundRoutes

namespace WebDispatch

open Http

variable {σ : Type}

/-! ### Content types among headers -/

theorem Text.sameIgnoringCase_iff {s t : String} :
    sameIgnoringCase s t = true ↔ lower s = lower t :=
  beq_iff_eq

namespace HandlerConfig

def types (headers : List (String × String)) : List String :=
  (headers.filter isContentType).map Prod.snd

theorem isContentType_iff {h : String × String} :
    isContentType h = true ↔ Text.lower h.1 = HeaderName.contentType.text :=
  Text.sameIgnoringCase_iff

theorem isContentType_eq_of_same {h own : String × String}
    (hs : Text.sameIgnoringCase h.1 own.1 = true) : isContentType h = isContentType own := by
  rw [Bool.eq_iff_iff, isContentType_iff, isContentType_iff, Text.sameIgnoringCase_iff.1 hs]

theorem filter_overlay_of_isContentType {own : String × String} (h : isContentType own = true)
    (headers : List (String × String)) :
    (overlay headers own).filter isContentType = [own] := by
  rw [overlay, List.filter_append, List.filter_cons_of_pos h, List.filter_eq_nil_iff.2]
  · rfl
  · intro h' hm hct
    obtain ⟨-, hs⟩ := List.mem_filter.1 hm
    rw [Text.sameIgnoringCase_iff.2 ((isContentType_iff.1 hct).trans (isContentType_iff.1 h).symm)]
      at hs
    cases hs

theorem filter_overlay_of_not_isContentType {own : String × String}
    (h : isContentType own = false) (headers : List (String × String)) :
    (overlay headers own).filter isContentType = headers.filter isContentType := by
  rw [overlay, List.filter_append, List.filter_cons_of_neg (by rw [h]; exact Bool.false_ne_true),
    List.filter_nil, List.append_nil, List.filter_filter]
  refine List.filter_congr fun h' _ ↦ ?_
  cases hs : Text.sameIgnoringCase h'.1 own.1 with
  | true => rw [isContentType_eq_of_same hs, h]; rfl
  | false => rw [Bool.not_false, Bool.and_true]

theorem types_foldl_overlay (own headers : List (String × String)) :
    types (own.foldl overlay headers) =
      match (types own).getLast? with
      | some text => [text]
      | none => types headers := by
  induction own using List.reverseRecOn with
  | nil => rfl
  | append_singleton own h ih =>
    rw [List.foldl_append, List.foldl_cons, List.foldl_nil, types]
    cases hct : isContentType h with
    | true =>
      rw [filter_overlay_of_isContentType hct]
      simp [types, List.filter_append, hct]
    | false =>
      rw [filter_overlay_of_not_isContentType hct]
      simpa [types, List.filter_append, hct] using ih

end HandlerConfig

/-- The content types that a route names among its own headers. -/
def Options.ownTypes (o : Options σ) : List String :=
  HandlerConfig.types o.ownHeaders

/-- The content types that default headers name and that are legal in a header. -/
def Defaults.types (d : Defaults σ) : List HeaderValue :=
  (HandlerConfig.types (HandlerConfig.pairs (d.get? .headers))).filterMap HeaderValue.parse?

namespace HandlerConfig

variable {o : Options σ} {d : Defaults σ} {config : HandlerConfig σ}

theorem types_of_validate (h : validate o d = .ok config) :
    types config.headers =
      match o.ownTypes.getLast? with
      | some text => [text]
      | none => types (pairs (d.get? .headers)) := by
  rw [headers_of_validate h, types_foldl_overlay, Options.ownTypes]

theorem contentTypeExplicit_iff (h : validate o d = .ok config) :
    config.contentTypeExplicit = true ↔ o.ownTypes ≠ [] := by
  rw [contentTypeExplicit_of_validate h, Options.ownTypes, types, ne_eq, List.map_eq_nil_iff,
    List.filter_eq_nil_iff]
  simp

theorem not_contentTypeExplicit (h : validate o d = .ok config) (hown : o.ownTypes = []) :
    config.contentTypeExplicit = false := by
  rw [← Bool.not_eq_true, contentTypeExplicit_iff h]
  exact fun hne ↦ hne hown

end HandlerConfig

namespace Registry

def types (pairs : List (HeaderName × HeaderValue)) : List HeaderValue :=
  (pairs.filter isContentType).map Prod.snd

theorem isContentType_of_headerPair {name value : String} {pair : HeaderName × HeaderValue}
    (h : headerPair name value = .ok pair) :
    isContentType pair = HandlerConfig.isContentType (name, value) ∧
      HeaderValue.parse? value = some pair.2 := by
  rw [headerPair] at h
  cases hn : HeaderName.parse? name with
  | none => rw [hn] at h; cases h
  | some n =>
    cases hv : HeaderValue.parse? value with
    | none => rw [hn, hv] at h; cases h
    | some v =>
      rw [hn, hv] at h
      cases h
      refine ⟨?_, rfl⟩
      have htext : n.text = Text.lower name := by
        rw [HeaderName.parse?] at hn
        split at hn
        · rw [← Option.some.inj hn]
          rfl
        · cases hn
      rw [Bool.eq_iff_iff, HandlerConfig.isContentType_iff, ← htext, isContentType, beq_iff_eq]
      exact ⟨congrArg HeaderName.text, fun h ↦ by cases n; cases h; rfl⟩

theorem types_of_headerPairs {hs : List (String × String)}
    {pairs : List (HeaderName × HeaderValue)} (h : headerPairs hs = .ok pairs) :
    (HandlerConfig.types hs).map HeaderValue.parse? = (types pairs).map some := by
  have hpairs := headerPairs_eq_ok h
  clear h
  induction hpairs with
  | nil => rfl
  | @cons own pair hs pairs hpair _ ih =>
    obtain ⟨hct, hvalue⟩ := isContentType_of_headerPair hpair
    cases hown : HandlerConfig.isContentType own with
    | false =>
      rw [hown] at hct
      rw [HandlerConfig.types, List.filter_cons_of_neg (by simp [hown]), types,
        List.filter_cons_of_neg (by simp [hct])]
      exact ih
    | true =>
      rw [hown] at hct
      rw [HandlerConfig.types, List.filter_cons_of_pos hown, types, List.filter_cons_of_pos hct,
        List.map_cons, List.map_cons, List.map_cons, List.map_cons, hvalue]
      exact congrArg _ ih

theorem head?_types (pairs : List (HeaderName × HeaderValue)) :
    (types pairs).head? = (pairs.find? isContentType).map Prod.snd := by
  rw [types, List.head?_map, List.head?_filter]

end Registry

theorem Terminal.configured?_contentType (t : Terminal σ) :
    t.configured? .contentType = (Registry.types t.headers).getLast? := by
  rw [configured?, Registry.types, List.getLast?_map]
  rfl

/-! ### The content type of a route -/

namespace Registry.Makes

variable {r : Registry σ} {a : σ} {method : Method} {path : String} {options : Options σ}
  {spec : HandlerSpec (RouteFunction σ)} {config : HandlerConfig σ} {p : PendingRoute σ}

/-- A route that is left with the default content types is sent with the last of them, and the first
is the one that may be replaced. -/
theorem contentType_of_default (h : r.Makes a method path options spec config p)
    (hown : options.ownTypes = []) (ht : p.terminal.template = none) :
    p.terminal.defaultContentType = r.defaults.types.head? ∧
      p.terminal.configured? .contentType = r.defaults.types.getLast? := by
  obtain ⟨pairs, hpairs, htyped⟩ := h.headers
  rw [HandlerConfig.not_contentTypeExplicit h.validated hown, ht] at htyped
  have hheaders : pairs = p.terminal.headers := congrArg Prod.fst htyped
  have hdefault : (pairs.find? isContentType).map Prod.snd = p.terminal.defaultContentType :=
    congrArg Prod.snd htyped
  have hvalues := types_of_headerPairs hpairs
  rw [HandlerConfig.types_of_validate h.validated, hown] at hvalues
  have hall : r.defaults.types = types pairs := by
    have hfilter := congrArg (List.filterMap id) hvalues
    rw [List.filterMap_map, List.filterMap_map] at hfilter
    exact hfilter.trans List.filterMap_some
  rw [hall, Terminal.configured?_contentType, ← hheaders, head?_types]
  exact ⟨hdefault.symm, rfl⟩

end Registry.Makes

end WebDispatch
