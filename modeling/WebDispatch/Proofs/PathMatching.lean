import Mathlib.Data.List.ReduceOption
import Mathlib.Logic.Relation
import WebDispatch.PathPattern
import WebDispatch.Proofs.PercentCoding

namespace WebDispatch

/-! ### Segments of a text -/

theorem Text.not_mem_of_mem_splitOn {α : Type} [BEq α] [LawfulBEq α] {sep : α} {cs piece : List α}
    (h : piece ∈ cs.splitOn sep) : sep ∉ piece := by
  induction cs generalizing piece with
  | nil =>
    rw [List.splitOn_nil, List.mem_singleton] at h
    subst h
    exact List.not_mem_nil
  | cons c cs ih =>
    rw [List.splitOn_cons_eq_if_modifyHead] at h
    by_cases hc : c = sep
    · rw [if_pos (beq_iff_eq.2 hc), List.mem_cons] at h
      rcases h with rfl | h
      · exact List.not_mem_nil
      · exact ih h
    · rw [if_neg (mt beq_iff_eq.1 hc)] at h
      cases hs : cs.splitOn sep with
      | nil => simp [hs] at h
      | cons first rest =>
        rw [hs, List.modifyHead_cons, List.mem_cons] at h
        rcases h with rfl | h
        · have hfirst : sep ∉ first := ih (by rw [hs]; exact List.mem_cons_self)
          simp [Ne.symm hc, hfirst]
        · exact ih (by rw [hs]; exact List.mem_cons_of_mem first h)

namespace PathPattern

theorem segmentsOf_append_slash (l r : List Char) :
    segmentsOf (.ofList (l ++ '/' :: r)) = segmentsOf (.ofList l) ++ segmentsOf (.ofList r) := by
  simp only [segmentsOf, Text.pieces, String.toList_ofList, List.splitOn_append_cons_self,
    List.map_append, List.filter_append]

theorem segmentsOf_nil : segmentsOf (.ofList []) = [] := rfl

theorem segmentsOf_slash (cs : List Char) :
    segmentsOf (.ofList ('/' :: cs)) = segmentsOf (.ofList cs) := by
  have h := segmentsOf_append_slash [] cs
  rwa [segmentsOf_nil, List.nil_append, List.nil_append] at h

def IsPart (part : String) : Prop :=
  part ≠ "" ∧ '/' ∉ part.toList

theorem segmentsOf_of_isPart {part : String} (h : IsPart part) : segmentsOf part = [part] := by
  simp [segmentsOf, Text.pieces, List.splitOn_eq_singleton h.2, h.1]

theorem isPart_of_mem {part path : String} (h : part ∈ segmentsOf path) : IsPart part := by
  obtain ⟨hmem, hne⟩ := List.mem_filter.1 h
  obtain ⟨piece, hpiece, rfl⟩ := List.mem_map.1 hmem
  refine ⟨by simpa using hne, ?_⟩
  rw [String.toList_ofList]
  exact Text.not_mem_of_mem_splitOn hpiece

/-- A text with one slash more that separates nothing: one at an end, or beside another. -/
inductive AddsSlash : String → String → Prop
  | leading (cs : List Char) : AddsSlash (.ofList cs) (.ofList ('/' :: cs))
  | trailing (cs : List Char) : AddsSlash (.ofList cs) (.ofList (cs ++ ['/']))
  | repeated (l r : List Char) :
      AddsSlash (.ofList (l ++ '/' :: r)) (.ofList (l ++ '/' :: '/' :: r))

/-- Two texts are the same but for slashes that separate nothing. -/
def SameButSlashes : String → String → Prop :=
  Relation.EqvGen AddsSlash

theorem SameButSlashes.segmentsOf_eq {s t : String} (h : SameButSlashes s t) :
    segmentsOf s = segmentsOf t := by
  induction h with
  | refl => rfl
  | symm _ _ _ ih => exact ih.symm
  | trans _ _ _ _ _ ih ih' => exact ih.trans ih'
  | rel s t h =>
    cases h with
    | leading cs => rw [segmentsOf_slash]
    | trailing cs => rw [segmentsOf_append_slash, segmentsOf_nil, List.append_nil]
    | repeated l r => rw [segmentsOf_append_slash, segmentsOf_append_slash, segmentsOf_slash]

/-! ### What a pattern takes from a path -/

def Segment.name? : Segment → Option String
  | literal _ => none
  | param name => some name
  | catchAll name => some name

def names (p : PathPattern) : List String :=
  p.segments.filterMap Segment.name?

/-- What a segment takes from the segments of a path, at its place among those of the pattern. -/
def Segment.capture? (parts : List String) (i : Nat) : Segment → Option (String × String)
  | literal _ => none
  | param name => parts[i]?.map fun part ↦ (name, Text.Percent.decodeText part)
  | catchAll name => some (name, "/".intercalate (parts.drop i))

/-- The segments of a pattern fit those of a path: the literal ones stand at their places, and there
is one for each, or any number for a catch-all. -/
structure Fits (segments : List Segment) (parts : List String) : Prop where
  literal : ∀ (i : Nat) (text : String), segments[i]? = some (.literal text) → parts[i]? = some text
  length : (∀ name, .catchAll name ∉ segments) ∧ parts.length = segments.length ∨
    (∃ name, segments.getLast? = some (.catchAll name)) ∧ segments.length ≤ parts.length + 1

def capturesOf (segments : List Segment) (parts : List String) : List (String × String) :=
  (segments.mapIdx (Segment.capture? parts)).reduceOption

def Placed : List Segment → Prop
  | [] => True
  | .catchAll _ :: ss => ss = []
  | _ :: ss => Placed ss

theorem capture?_succ (part : String) (parts : List String) (i : Nat) (s : Segment) :
    s.capture? (part :: parts) (i + 1) = s.capture? parts i := by
  cases s <;> rfl

theorem capturesOf_cons (s : Segment) (ss : List Segment) (part : String) (parts : List String) :
    capturesOf (s :: ss) (part :: parts) =
      (s.capture? (part :: parts) 0).toList ++ capturesOf ss parts := by
  have hshift : (fun i ↦ Segment.capture? (part :: parts) (i + 1)) = Segment.capture? parts := by
    funext i t
    exact capture?_succ part parts i t
  rw [capturesOf, List.mapIdx_cons, hshift]
  cases s.capture? (part :: parts) 0 <;> rfl

theorem fits_cons {s : Segment} {ss : List Segment} {part : String} {parts : List String}
    (h : ∀ name, s ≠ .catchAll name) :
    Fits (s :: ss) (part :: parts) ↔ (∀ text, s = .literal text → part = text) ∧ Fits ss parts := by
  constructor
  · rintro ⟨hliteral, hlength⟩
    refine ⟨fun text hs ↦ ?_, fun i text hi ↦ hliteral (i + 1) text hi, ?_⟩
    · have h0 := hliteral 0 text (by rw [hs]; rfl)
      exact Option.some.inj h0
    · rcases hlength with ⟨hnone, hlen⟩ | ⟨⟨name, hlast⟩, hlen⟩
      · refine .inl ⟨fun name hm ↦ hnone name (List.mem_cons_of_mem s hm), ?_⟩
        simpa using hlen
      · refine .inr ⟨⟨name, ?_⟩, ?_⟩
        · rw [List.getLast?_cons] at hlast
          cases hss : ss.getLast? with
          | none => simp [hss, h] at hlast
          | some last => simpa [hss] using hlast
        · simpa using hlen
  · rintro ⟨hs, hliteral, hlength⟩
    refine ⟨fun i text hi ↦ ?_, ?_⟩
    · cases i with
      | zero =>
        have hi' : s = .literal text := Option.some.inj hi
        rw [hs text hi']
        rfl
      | succ i => exact hliteral i text hi
    · rcases hlength with ⟨hnone, hlen⟩ | ⟨⟨name, hlast⟩, hlen⟩
      · refine .inl ⟨fun name hm ↦ ?_, by simpa using hlen⟩
        rcases List.mem_cons.1 hm with he | hm
        · exact h name he.symm
        · exact hnone name hm
      · refine .inr ⟨⟨name, ?_⟩, by simpa using hlen⟩
        rw [List.getLast?_cons, hlast]
        rfl

theorem not_fits_nil {s : Segment} {ss : List Segment} (h : ∀ name, s ≠ .catchAll name) :
    ¬ Fits (s :: ss) [] := by
  rintro ⟨-, ⟨-, hlen⟩ | ⟨⟨name, hlast⟩, hlen⟩⟩
  · cases hlen
  · have hss : ss = [] := by
      rw [List.length_cons, List.length_nil] at hlen
      exact List.eq_nil_of_length_eq_zero (by omega)
    rw [hss] at hlast
    exact h name (Option.some.inj hlast)

theorem fits_catchAll (name : String) (parts : List String) : Fits [.catchAll name] parts := by
  refine ⟨fun i text hi ↦ ?_, .inr ⟨⟨name, rfl⟩, Nat.le_add_left ..⟩⟩
  cases i <;> simp at hi

theorem matchSegments_eq_some_iff {segments : List Segment} (h : Placed segments)
    {parts : List String} {captures : List (String × String)} :
    matchSegments segments parts = some captures ↔
      Fits segments parts ∧ captures = capturesOf segments parts := by
  induction segments generalizing parts captures with
  | nil =>
    cases parts with
    | nil =>
      have hfits : Fits [] [] :=
        ⟨fun i text hi ↦ (nomatch hi), .inl ⟨fun _ ↦ List.not_mem_nil, rfl⟩⟩
      simp [matchSegments, hfits, capturesOf, List.reduceOption, eq_comm]
    | cons part parts =>
      have hfits : ¬ Fits [] (part :: parts) := by
        rintro ⟨-, ⟨-, hlen⟩ | ⟨⟨name, hlast⟩, -⟩⟩
        · cases hlen
        · cases hlast
      simp [matchSegments, hfits]
  | cons s ss ih =>
    cases s with
    | catchAll name =>
      -- Nothing of the pattern is left behind it, so whatever is left of the path fits.
      obtain rfl : ss = [] := h
      simp [matchSegments, fits_catchAll, capturesOf, Segment.capture?, List.reduceOption, eq_comm]
    | literal text =>
      have hs : ∀ name, Segment.literal text ≠ .catchAll name := by simp
      cases parts with
      | nil => simp [matchSegments, not_fits_nil hs]
      | cons part parts =>
        rw [matchSegments, fits_cons hs, capturesOf_cons]
        by_cases hpart : part = text
        · simp [hpart, ih h, Segment.capture?]
        · simp [hpart]
    | param name =>
      have hs : ∀ name', Segment.param name ≠ .catchAll name' := by simp
      cases parts with
      | nil => simp [matchSegments, not_fits_nil hs]
      | cons part parts =>
        rw [matchSegments, fits_cons hs, capturesOf_cons]
        constructor
        · intro hmatch
          obtain ⟨rest, hrest, rfl⟩ := Option.map_eq_some_iff.1 hmatch
          obtain ⟨hfits, rfl⟩ := (ih h).1 hrest
          exact ⟨⟨fun text ht ↦ (nomatch ht), hfits⟩, rfl⟩
        · rintro ⟨⟨-, hfits⟩, rfl⟩
          rw [(ih h).2 ⟨hfits, rfl⟩]
          rfl

theorem placed_of_firstFault {segments : List Segment} (h : firstFault segments = none) :
    Placed segments := by
  induction segments with
  | nil => trivial
  | cons s ss ih =>
    rw [firstFault, Option.or_eq_none_iff] at h
    cases s with
    | catchAll name =>
      rw [Placed]
      by_contra hlast
      simp [Segment.fault?, hlast] at h
    | literal text => exact ih h.2
    | param name => exact ih h.2

theorem parse_eq_ok_iff {source : String} {p : PathPattern} :
    parse source = .ok p ↔ source.toList.head? = some '/' ∧
      firstFault ((segmentsOf source).map .ofText) = none ∧
      p = ⟨source, (segmentsOf source).map .ofText⟩ := by
  rw [parse]
  by_cases hroot : source.toList.head? = some '/'
  · rw [if_neg (not_not.2 hroot)]
    dsimp only
    cases firstFault ((segmentsOf source).map .ofText) with
    | some f => simp
    | none => simp [hroot, eq_comm]
  · simp [hroot]

theorem names_of_matchSegments {segments : List Segment} (h : Placed segments)
    {parts : List String} {captures : List (String × String)}
    (hmatch : matchSegments segments parts = some captures) :
    captures.map Prod.fst = segments.filterMap Segment.name? := by
  induction segments generalizing parts captures with
  | nil =>
    cases parts with
    | nil =>
      cases hmatch
      rfl
    | cons part parts => cases hmatch
  | cons s ss ih =>
    cases s with
    | catchAll name =>
      obtain rfl : ss = [] := h
      cases hmatch
      rfl
    | literal text =>
      cases parts with
      | nil => cases hmatch
      | cons part parts =>
        rw [matchSegments] at hmatch
        split at hmatch
        · exact ih h hmatch
        · cases hmatch
    | param name =>
      cases parts with
      | nil => cases hmatch
      | cons part parts =>
        obtain ⟨rest, hrest, rfl⟩ := Option.map_eq_some_iff.1 hmatch
        rw [List.map_cons, ih h hrest]
        rfl

theorem placed_of_parse {source : String} {p : PathPattern} (h : parse source = .ok p) :
    Placed p.segments := by
  obtain ⟨-, hfault, rfl⟩ := parse_eq_ok_iff.1 h
  exact placed_of_firstFault hfault

theorem parse_of_segmentsOf_eq {source source' : String} {p : PathPattern}
    (h : parse source = .ok p) (hroot : source'.toList.head? = some '/')
    (hsegments : segmentsOf source = segmentsOf source') :
    parse source' = .ok ⟨source', p.segments⟩ := by
  obtain ⟨-, hfault, rfl⟩ := parse_eq_ok_iff.1 h
  rw [hsegments] at hfault
  exact parse_eq_ok_iff.2 ⟨hroot, hfault, by rw [hsegments]⟩

/-- A pattern takes from a path exactly what fits it, place by place. Slashes that separate nothing
change neither the pattern nor what it takes. -/
theorem captures_exact {source : String} {p : PathPattern} (h : parse source = .ok p) :
    (∀ path captures, p.captures? path = some captures ↔
      Fits p.segments (segmentsOf path) ∧
        captures = capturesOf p.segments (segmentsOf path)) ∧
    (∀ path captures, p.captures? path = some captures → captures.map Prod.fst = p.names) ∧
    (∀ part value, Text.Percent.decodeText part = value ↔ Text.Percent.Reads part value) ∧
    ∀ source' path path', SameButSlashes source source' → source'.toList.head? = some '/' →
      SameButSlashes path path' →
        ∃ p', parse source' = .ok p' ∧ p'.captures? path' = p.captures? path := by
  have hplaced := placed_of_parse h
  refine ⟨fun path captures ↦ matchSegments_eq_some_iff hplaced,
    fun path captures hmatch ↦ names_of_matchSegments hplaced hmatch,
    fun part value ↦ Text.Percent.decodeText_eq_iff, ?_⟩
  intro source' path path' hsource hroot hpath
  have hparse := parse_of_segmentsOf_eq h hroot hsource.segmentsOf_eq
  refine ⟨_, hparse, ?_⟩
  rw [captures?, captures?, hpath.segmentsOf_eq]

theorem captures_exact_of_catchAll :
    ∃ p, parse "/shops/{id}/{*rest}" = .ok p ∧
      p.captures? "/shops/a%2Fb/x//y" = some [("id", "a/b"), ("rest", "x/y")] ∧
      Fits p.segments ["shops", "a%2Fb", "x", "y"] ∧ p.names = ["id", "rest"] ∧
      ∃ p', parse "/shops//{id}/{*rest}" = .ok p' ∧
        p'.captures? "/shops/a%2Fb/x//y/" = p.captures? "/shops/a%2Fb/x//y" := by
  let p : PathPattern :=
    ⟨"/shops/{id}/{*rest}", [.literal "shops", .param "id", .catchAll "rest"]⟩
  have hparse : parse "/shops/{id}/{*rest}" = .ok p := by decide
  have hcaptures : p.captures? "/shops/a%2Fb/x//y" = some [("id", "a/b"), ("rest", "x/y")] := by
    decide
  have hsource : SameButSlashes "/shops/{id}/{*rest}" "/shops//{id}/{*rest}" :=
    .rel _ _ (.repeated "/shops".toList "{id}/{*rest}".toList)
  have hpath : SameButSlashes "/shops/a%2Fb/x//y" "/shops/a%2Fb/x//y/" :=
    .rel _ _ (.trailing "/shops/a%2Fb/x//y".toList)
  obtain ⟨hexact, hnames, -, hslashes⟩ := captures_exact hparse
  exact ⟨p, hparse, hcaptures, ((hexact _ _).1 hcaptures).1, (hnames _ _ hcaptures).symm,
    hslashes _ _ _ hsource (by decide) hpath⟩

end PathPattern
end WebDispatch
