import Mathlib.Data.List.Forall2
import WebDispatch.Proofs.PathRoundTrip

namespace WebDispatch.PathPattern

/-! ### The segments of a text -/

theorem Joined.front {front : List Char} (h : '/' ∉ front) {parts : List String} {cs : List Char}
    (hcs : ∀ c, cs.head? = some c → c = '/') (rest : Joined parts cs) :
    Joined (segmentsOf (.ofList front) ++ parts) (front ++ cs) := by
  cases front with
  | nil => exact rest
  | cons c front =>
    have hpart : IsPart (.ofList (c :: front)) := by
      refine ⟨fun hempty ↦ ?_, by rwa [String.toList_ofList]⟩
      have hlist := congrArg String.toList hempty
      rw [String.toList_ofList] at hlist
      cases hlist
    have hjoined : Joined (.ofList (c :: front) :: parts)
        ((String.ofList (c :: front)).toList ++ cs) := .part hcs rest
    rw [segmentsOf_of_isPart hpart]
    rwa [String.toList_ofList] at hjoined

theorem joined_segmentsOf_append (front : List Char) (h : '/' ∉ front) (cs : List Char) :
    Joined (segmentsOf (.ofList (front ++ cs))) (front ++ cs) := by
  -- The front grows up to the next slash, and behind it the next one starts.
  induction cs generalizing front with
  | nil =>
    have hjoined := Joined.front h (by simp) .nil
    rwa [List.append_nil, List.append_nil] at *
  | cons c cs ih =>
    by_cases hc : c = '/'
    · subst hc
      rw [segmentsOf_append_slash]
      exact .front h (by simp) (.slash (ih [] List.not_mem_nil))
    · have hjoined := ih (front ++ [c]) (by simp [h, Ne.symm hc])
      rwa [List.append_assoc, List.singleton_append] at hjoined

theorem segmentsOf_eq_iff {path : String} {parts : List String} :
    segmentsOf path = parts ↔ Joined parts path.toList ∧ ∀ part ∈ parts, IsPart part := by
  constructor
  · rintro rfl
    have hjoined := joined_segmentsOf_append [] List.not_mem_nil path.toList
    rw [List.nil_append, String.ofList_toList] at hjoined
    exact ⟨hjoined, fun part ↦ isPart_of_mem⟩
  · rintro ⟨hjoined, hparts⟩
    rw [← String.ofList_toList (s := path), hjoined.segmentsOf_eq hparts]

/-! ### One segment -/

/-- How a segment is written: a parameter in braces, a catch-all in braces with a star behind the
first one, and a literal as any text that is not in braces as a whole. -/
inductive Segment.Spelled : Segment → String → Prop
  | catchAll (name : String) : Spelled (.catchAll name) ("\x7b*" ++ name ++ "\x7d")
  | param {name : String} (h : name.toList.head? ≠ some '*') :
      Spelled (.param name) ("\x7b" ++ name ++ "\x7d")
  | literal {text : String} (h : ∀ inner, text ≠ "\x7b" ++ inner ++ "\x7d") :
      Spelled (.literal text) text

theorem toList_inBraces (inner : String) :
    ("\x7b" ++ inner ++ "\x7d").toList = '\x7b' :: (inner.toList ++ ['\x7d']) := by
  simp [String.toList_append]

theorem toList_inBraces_star (name : String) :
    ("\x7b*" ++ name ++ "\x7d").toList = '\x7b' :: ('*' :: name.toList ++ ['\x7d']) := by
  simp [String.toList_append]

theorem braced?_eq_some_iff {cs inner : List Char} :
    braced? cs = some inner ↔ cs = '\x7b' :: (inner ++ ['\x7d']) := by
  constructor
  · intro h
    unfold braced? at h
    split at h
    · rename_i cs
      split at h
      · rename_i hlast
        cases h
        rw [List.dropLast_append_getLast? _ hlast]
      · cases h
    · cases h
  · rintro rfl
    simp [braced?]

theorem braced?_toList_eq_none_iff {text : String} :
    braced? text.toList = none ↔ ∀ inner, text ≠ "\x7b" ++ inner ++ "\x7d" := by
  constructor
  · rintro h inner rfl
    rw [toList_inBraces, braced?_eq_some_iff.2 rfl] at h
    cases h
  · intro h
    cases hb : braced? text.toList with
    | none => rfl
    | some inner =>
      refine absurd (String.toList_inj.1 ?_) (h (.ofList inner))
      rw [toList_inBraces, String.toList_ofList, braced?_eq_some_iff.1 hb]

theorem Segment.ofText_eq_iff {text : String} {s : Segment} :
    Segment.ofText text = s ↔ s.Spelled text := by
  constructor
  · rintro rfl
    rw [ofText]
    split
    · rename_i name hb
      have htext : text = "\x7b*" ++ .ofList name ++ "\x7d" := by
        rw [← String.toList_inj, toList_inBraces_star, String.toList_ofList,
          braced?_eq_some_iff.1 hb]
      rw [htext]
      exact .catchAll _
    · rename_i name hstar hb
      have htext : text = "\x7b" ++ .ofList name ++ "\x7d" := by
        rw [← String.toList_inj, toList_inBraces, String.toList_ofList, braced?_eq_some_iff.1 hb]
      rw [htext]
      refine .param fun hhead ↦ ?_
      rw [String.toList_ofList] at hhead
      cases name with
      | nil => cases hhead
      | cons c name => exact hstar name (by rw [Option.some.inj hhead])
    · rename_i hb
      exact .literal (braced?_toList_eq_none_iff.1 hb)
  · intro h
    cases h with
    | catchAll name =>
      rw [ofText, toList_inBraces_star, braced?_eq_some_iff.2 rfl]
      simp
    | @param name h =>
      rw [ofText, toList_inBraces, braced?_eq_some_iff.2 rfl]
      split
      · rename_i rest heq
        rw [Option.some.inj heq] at h
        exact absurd rfl h
      · rename_i heq
        rw [← Option.some.inj heq, String.ofList_toList]
      · rename_i heq
        cases heq
    | literal h => rw [ofText, braced?_toList_eq_none_iff.2 h]

/-! ### The segments of a pattern -/

/-- A segment that a pattern may not have at its place. A catch-all that is not last offends by its
place, also if it has no name. -/
inductive OffendsAt (parts : List String) (i : Nat) : Fault → Prop
  | misplaced {name : String} (h : parts[i]? = some ("\x7b*" ++ name ++ "\x7d"))
      (hlast : i + 1 < parts.length) : OffendsAt parts i .catchAllNotLast
  | unnamed (h : parts[i]? = some "\x7b\x7d") : OffendsAt parts i .emptyName
  | unnamedCatchAll (h : parts[i]? = some "\x7b*\x7d") (hlast : i + 1 = parts.length) :
      OffendsAt parts i .emptyName

theorem Segment.ofText_eq_catchAll_iff {text name : String} :
    Segment.ofText text = .catchAll name ↔ text = "\x7b*" ++ name ++ "\x7d" := by
  rw [ofText_eq_iff]
  constructor
  · intro h
    cases h
    rfl
  · rintro rfl
    exact .catchAll name

theorem Segment.ofText_eq_param_nil_iff {text : String} :
    Segment.ofText text = .param "" ↔ text = "\x7b\x7d" := by
  rw [ofText_eq_iff]
  constructor
  · intro h
    cases h
    rfl
  · rintro rfl
    have hspelled : Spelled (.param "") ("\x7b" ++ "" ++ "\x7d") := .param (by simp)
    exact hspelled

theorem offendsAt_zero_iff {part : String} {parts : List String} {f : Fault} :
    OffendsAt (part :: parts) 0 f ↔ (Segment.ofText part).fault? parts.isEmpty = some f := by
  constructor
  · intro h
    cases h with
    | @misplaced name h hlast =>
      rw [Segment.ofText_eq_catchAll_iff.2 (Option.some.inj h)]
      cases parts with
      | nil => simp at hlast
      | cons next parts => rfl
    | unnamed h =>
      rw [Segment.ofText_eq_param_nil_iff.2 (Option.some.inj h)]
      rfl
    | unnamedCatchAll h hlast =>
      have hpart : part = "\x7b*" ++ "" ++ "\x7d" := Option.some.inj h
      rw [Segment.ofText_eq_catchAll_iff.2 hpart]
      obtain rfl : parts = [] := List.eq_nil_of_length_eq_zero (by simpa using hlast)
      rfl
  · intro h
    cases hs : Segment.ofText part with
    | literal text =>
      rw [hs] at h
      cases h
    | param name =>
      simp only [hs, Segment.fault?, String.isEmpty_iff, Option.ite_none_right_eq_some] at h
      obtain ⟨rfl, hf⟩ := h
      cases hf
      exact .unnamed (congrArg some (Segment.ofText_eq_param_nil_iff.1 hs))
    | catchAll name =>
      have hpart := Segment.ofText_eq_catchAll_iff.1 hs
      rw [hs] at h
      cases parts with
      | cons next parts =>
        cases h
        exact .misplaced (congrArg some hpart) (by simp)
      | nil =>
        simp only [Segment.fault?, List.isEmpty_nil, Bool.not_true, Bool.false_eq_true, if_false,
          String.isEmpty_iff, Option.ite_none_right_eq_some] at h
        obtain ⟨rfl, hf⟩ := h
        cases hf
        exact .unnamedCatchAll (congrArg some hpart) rfl

theorem offendsAt_succ_iff {part : String} {parts : List String} {i : Nat} {f : Fault} :
    OffendsAt (part :: parts) (i + 1) f ↔ OffendsAt parts i f := by
  constructor
  · intro h
    cases h with
    | misplaced h hlast => exact .misplaced h (Nat.lt_of_succ_lt_succ hlast)
    | unnamed h => exact .unnamed h
    | unnamedCatchAll h hlast => exact .unnamedCatchAll h (Nat.succ.inj hlast)
  · intro h
    cases h with
    | misplaced h hlast => exact .misplaced h (Nat.succ_lt_succ hlast)
    | unnamed h => exact .unnamed h
    | unnamedCatchAll h hlast => exact .unnamedCatchAll h (congrArg Nat.succ hlast)

/-- The first segment from the left that offends. -/
structure FirstOffence (parts : List String) (i : Nat) (f : Fault) : Prop where
  offends : OffendsAt parts i f
  first : ∀ j < i, ∀ f', ¬ OffendsAt parts j f'

theorem firstOffence_zero_iff {part : String} {parts : List String} {f : Fault} :
    FirstOffence (part :: parts) 0 f ↔ (Segment.ofText part).fault? parts.isEmpty = some f := by
  rw [← offendsAt_zero_iff]
  exact ⟨FirstOffence.offends, fun h ↦ ⟨h, fun j hj ↦ absurd hj (Nat.not_lt_zero j)⟩⟩

theorem fault?_eq_none_iff {part : String} {parts : List String} :
    (Segment.ofText part).fault? parts.isEmpty = none ↔ ∀ f, ¬ OffendsAt (part :: parts) 0 f := by
  simp only [offendsAt_zero_iff, Option.eq_none_iff_forall_ne_some]

theorem firstOffence_succ_iff {part : String} {parts : List String} {i : Nat} {f : Fault} :
    FirstOffence (part :: parts) (i + 1) f ↔
      (Segment.ofText part).fault? parts.isEmpty = none ∧ FirstOffence parts i f := by
  rw [fault?_eq_none_iff]
  constructor
  · rintro ⟨hoffends, hfirst⟩
    refine ⟨hfirst 0 (Nat.succ_pos i), offendsAt_succ_iff.1 hoffends, fun j hj f' hj' ↦ ?_⟩
    exact hfirst (j + 1) (Nat.succ_lt_succ hj) f' (offendsAt_succ_iff.2 hj')
  · rintro ⟨hpart, hoffends, hfirst⟩
    refine ⟨offendsAt_succ_iff.2 hoffends, fun j hj f' hj' ↦ ?_⟩
    cases j with
    | zero => exact hpart f' hj'
    | succ j => exact hfirst j (Nat.lt_of_succ_lt_succ hj) f' (offendsAt_succ_iff.1 hj')

theorem firstFault_eq_some_iff {parts : List String} {f : Fault} :
    firstFault (parts.map .ofText) = some f ↔ ∃ i, FirstOffence parts i f := by
  induction parts with
  | nil =>
    refine ⟨fun h ↦ (nomatch h), ?_⟩
    rintro ⟨i, ⟨hoffends, -⟩⟩
    cases hoffends <;> simp_all
  | cons part parts ih =>
    have hsplit := Nat.or_exists_add_one (p := fun i ↦ FirstOffence (part :: parts) i f)
    rw [List.map_cons, firstFault, List.isEmpty_map, Option.or_eq_some_iff, ih, ← hsplit,
      firstOffence_zero_iff]
    simp only [firstOffence_succ_iff, exists_and_left]

theorem firstFault_eq_none_iff {parts : List String} :
    firstFault (parts.map .ofText) = none ↔ ∀ i f, ¬ OffendsAt parts i f := by
  induction parts with
  | nil =>
    refine ⟨fun _ i f h ↦ ?_, fun _ ↦ rfl⟩
    cases h <;> simp_all
  | cons part parts ih =>
    have hsplit := Nat.and_forall_add_one (p := fun i ↦ ∀ f, ¬ OffendsAt (part :: parts) i f)
    rw [List.map_cons, firstFault, List.isEmpty_map, Option.or_eq_none_iff, ih,
      fault?_eq_none_iff, ← hsplit]
    simp only [offendsAt_succ_iff]

theorem forall_not_offendsAt_iff {parts : List String} :
    (∀ i f, ¬ OffendsAt parts i f) ↔ "\x7b\x7d" ∉ parts ∧ "\x7b*\x7d" ∉ parts ∧
      ∀ i name, parts[i]? = some ("\x7b*" ++ name ++ "\x7d") → i + 1 = parts.length := by
  constructor
  · intro h
    have hlast : ∀ i name, parts[i]? = some ("\x7b*" ++ name ++ "\x7d") → i + 1 = parts.length := by
      intro i name hi
      obtain ⟨hlt, -⟩ := List.getElem?_eq_some_iff.1 hi
      by_contra hne
      exact h i _ (.misplaced hi (by omega))
    refine ⟨fun hmem ↦ ?_, fun hmem ↦ ?_, hlast⟩
    · obtain ⟨i, hi⟩ := List.mem_iff_getElem?.1 hmem
      exact h i _ (.unnamed hi)
    · obtain ⟨i, hi⟩ := List.mem_iff_getElem?.1 hmem
      exact h i _ (.unnamedCatchAll hi (hlast i "" hi))
  · rintro ⟨hunnamed, hstar, hlast⟩ i f h
    cases h with
    | misplaced h hlt => exact absurd (hlast i _ h) (Nat.ne_of_lt hlt)
    | unnamed h => exact hunnamed (List.mem_of_getElem? h)
    | unnamedCatchAll h => exact hstar (List.mem_of_getElem? h)

/-! ### Parsing -/

theorem parse_eq_error_iff {source : String} {f : Fault} :
    parse source = .error f ↔ source.toList.head? ≠ some '/' ∧ f = .notRooted ∨
      source.toList.head? = some '/' ∧ ∃ i, FirstOffence (segmentsOf source) i f := by
  rw [parse, ← firstFault_eq_some_iff]
  by_cases hroot : source.toList.head? = some '/'
  · rw [if_neg (not_not.2 hroot)]
    dsimp only
    cases firstFault ((segmentsOf source).map .ofText) <;> simp [hroot]
  · simp [hroot, eq_comm]

theorem ofText_eq_ok_iff {source : String} {p : PathPattern} :
    ofText source = .ok p ↔ parse source = .ok p := by
  rw [ofText]
  cases parse source <;> simp

theorem ofText_eq_error_iff {source : String} {e : Error} :
    ofText source = .error e ↔
      ∃ f, parse source = .error f ∧ e = .invalidPath source f.message := by
  rw [ofText]
  cases parse source <;> simp [eq_comm]

theorem spelled_map_ofText (parts : List String) :
    List.Forall₂ Segment.Spelled (parts.map .ofText) parts :=
  List.forall₂_map_left_iff.2 (List.forall₂_same.2 fun _ _ ↦ Segment.ofText_eq_iff.1 rfl)

theorem names_ne_nil {parts : List String} (h : ∀ i f, ¬ OffendsAt parts i f) :
    "" ∉ (parts.map .ofText).filterMap Segment.name? := by
  obtain ⟨hunnamed, hstar, -⟩ := forall_not_offendsAt_iff.1 h
  intro hmem
  obtain ⟨s, hs, hname⟩ := List.mem_filterMap.1 hmem
  obtain ⟨part, hpart, rfl⟩ := List.mem_map.1 hs
  cases hof : Segment.ofText part with
  | literal text =>
    rw [hof] at hname
    cases hname
  | param name =>
    rw [hof] at hname
    obtain rfl : name = "" := Option.some.inj hname
    rw [Segment.ofText_eq_param_nil_iff.1 hof] at hpart
    exact hunnamed hpart
  | catchAll name =>
    rw [hof] at hname
    obtain rfl : name = "" := Option.some.inj hname
    rw [Segment.ofText_eq_catchAll_iff.1 hof] at hpart
    exact hstar hpart

theorem ofText_eq_error_iff_offence {source : String} {e : Error} :
    ofText source = .error e ↔
      source.toList.head? ≠ some '/' ∧ e = .invalidPath source "must start with '/'" ∨
      source.toList.head? = some '/' ∧ ∃ i,
        FirstOffence (segmentsOf source) i .catchAllNotLast ∧
          e = .invalidPath source "catch-all must be the last segment" ∨
        FirstOffence (segmentsOf source) i .emptyName ∧
          e = .invalidPath source "empty parameter name" := by
  rw [ofText_eq_error_iff]
  constructor
  · rintro ⟨f, hf, rfl⟩
    rcases parse_eq_error_iff.1 hf with ⟨hroot, rfl⟩ | ⟨hroot, i, h⟩
    · exact .inl ⟨hroot, rfl⟩
    · refine .inr ⟨hroot, i, ?_⟩
      cases f with
      | notRooted => cases h.offends
      | catchAllNotLast => exact .inl ⟨h, rfl⟩
      | emptyName => exact .inr ⟨h, rfl⟩
  · rintro (⟨hroot, rfl⟩ | ⟨hroot, i, ⟨h, rfl⟩ | ⟨h, rfl⟩⟩)
    · exact ⟨.notRooted, parse_eq_error_iff.2 (.inl ⟨hroot, rfl⟩), rfl⟩
    · exact ⟨.catchAllNotLast, parse_eq_error_iff.2 (.inr ⟨hroot, i, h⟩), rfl⟩
    · exact ⟨.emptyName, parse_eq_error_iff.2 (.inr ⟨hroot, i, h⟩), rfl⟩

/-- A text is a pattern if and only if it starts with a slash and among its segments there is none
without a name in braces and no catch-all before the last. The pattern has its segments in order,
as they are spelled. The error names the text and tells what is wrong with the first segment from
the left that offends: of a catch-all before the last, whatever its name, that it is not last. -/
theorem parse_grammar (source : String) :
    (∀ parts, segmentsOf source = parts ↔
      Joined parts source.toList ∧ ∀ part ∈ parts, IsPart part) ∧
    ((∃ p, ofText source = .ok p) ↔ source.toList.head? = some '/' ∧
      "\x7b\x7d" ∉ segmentsOf source ∧ "\x7b*\x7d" ∉ segmentsOf source ∧
      ∀ i name, (segmentsOf source)[i]? = some ("\x7b*" ++ name ++ "\x7d") →
        i + 1 = (segmentsOf source).length) ∧
    (∀ p, ofText source = .ok p → p.source = source ∧
      List.Forall₂ Segment.Spelled p.segments (segmentsOf source) ∧ "" ∉ p.names ∧
      ∀ i name, p.segments[i]? = some (.catchAll name) → i + 1 = p.segments.length) ∧
    (∀ e, ofText source = .error e ↔
      source.toList.head? ≠ some '/' ∧ e = .invalidPath source "must start with '/'" ∨
      source.toList.head? = some '/' ∧ ∃ i,
        FirstOffence (segmentsOf source) i .catchAllNotLast ∧
          e = .invalidPath source "catch-all must be the last segment" ∨
        FirstOffence (segmentsOf source) i .emptyName ∧
          e = .invalidPath source "empty parameter name") ∧
    ∀ i name, source.toList.head? = some '/' →
      (segmentsOf source)[i]? = some ("\x7b*" ++ name ++ "\x7d") →
      i + 1 < (segmentsOf source).length →
      (∀ j < i, ∀ f, ¬ OffendsAt (segmentsOf source) j f) →
      ofText source = .error (.invalidPath source "catch-all must be the last segment") := by
  refine ⟨fun parts ↦ segmentsOf_eq_iff, ?_, fun p hp ↦ ?_, fun e ↦ ofText_eq_error_iff_offence,
    fun i name hroot hi hlast hfirst ↦ ?_⟩
  · simp only [ofText_eq_ok_iff, parse_eq_ok_iff, firstFault_eq_none_iff, forall_not_offendsAt_iff,
      exists_and_left, exists_eq, and_true]
  · obtain ⟨-, hfault, rfl⟩ := parse_eq_ok_iff.1 (ofText_eq_ok_iff.1 hp)
    have hsound := firstFault_eq_none_iff.1 hfault
    refine ⟨rfl, spelled_map_ofText _, names_ne_nil hsound, fun i name hi ↦ ?_⟩
    rw [List.getElem?_map, Option.map_eq_some_iff] at hi
    obtain ⟨part, hpart, hof⟩ := hi
    rw [Segment.ofText_eq_catchAll_iff.1 hof] at hpart
    rw [List.length_map]
    exact (forall_not_offendsAt_iff.1 hsound).2.2 i name hpart
  · exact ofText_eq_error_iff_offence.2
      (.inr ⟨hroot, i, .inl ⟨⟨.misplaced hi hlast, hfirst⟩, rfl⟩⟩)

example : (segmentsOf "/\x7b/\x7d/\x7b*/\x7b\x7d\x7d").map Segment.ofText =
    [.literal "\x7b", .literal "\x7d", .literal "\x7b*", .param "\x7d"] := by decide

end WebDispatch.PathPattern
