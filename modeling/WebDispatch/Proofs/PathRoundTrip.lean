import WebDispatch.Proofs.PathMatching

namespace WebDispatch.PathPattern

/-- Segments of a path for those of a pattern: in the place of each parameter a value, escaped. -/
inductive Fills : List Segment → List String → List String → Prop
  | nil : Fills [] [] []
  | literal {text : String} {segments : List Segment} {values parts : List String}
      (rest : Fills segments values parts) :
      Fills (.literal text :: segments) values (text :: parts)
  | param {name value part : String} {segments : List Segment} {values parts : List String}
      (h : Text.Percent.Escapes (Text.Utf8.encode value) part.toList)
      (rest : Fills segments values parts) :
      Fills (.param name :: segments) (value :: values) (part :: parts)

/-- A path of the given segments in order, at least one slash between each and the next. -/
inductive Joined : List String → List Char → Prop
  | nil : Joined [] []
  | slash {parts : List String} {cs : List Char} (rest : Joined parts cs) : Joined parts ('/' :: cs)
  | part {part : String} {parts : List String} {cs : List Char}
      (h : ∀ c, cs.head? = some c → c = '/') (rest : Joined parts cs) :
      Joined (part :: parts) (part.toList ++ cs)

theorem segmentsOf_part {part : String} (h : IsPart part) {cs : List Char}
    (hcs : ∀ c, cs.head? = some c → c = '/') :
    segmentsOf (.ofList (part.toList ++ cs)) = part :: segmentsOf (.ofList cs) := by
  cases cs with
  | nil =>
    rw [List.append_nil, String.ofList_toList, segmentsOf_of_isPart h, segmentsOf_nil]
  | cons c cs =>
    obtain rfl := hcs c rfl
    rw [segmentsOf_append_slash, String.ofList_toList, segmentsOf_of_isPart h, segmentsOf_slash]
    rfl

theorem Joined.segmentsOf_eq {parts : List String} {cs : List Char} (h : Joined parts cs)
    (hparts : ∀ part ∈ parts, IsPart part) : segmentsOf (.ofList cs) = parts := by
  induction h with
  | nil => exact segmentsOf_nil
  | slash rest ih => rw [segmentsOf_slash, ih hparts]
  | part hcs rest ih =>
    obtain ⟨hpart, hrest⟩ := List.forall_mem_cons.1 hparts
    rw [segmentsOf_part hpart hcs, ih hrest]

theorem Fills.isPart {segments : List Segment} {values parts : List String}
    (h : Fills segments values parts) (hvalues : ∀ v ∈ values, v ≠ "")
    (hliterals : ∀ text, .literal text ∈ segments → IsPart text) :
    ∀ part ∈ parts, IsPart part := by
  induction h with
  | nil => exact fun part hpart ↦ absurd hpart List.not_mem_nil
  | @literal text segments values parts rest ih =>
    have htext : IsPart text := hliterals text List.mem_cons_self
    have hrest := ih hvalues fun t ht ↦ hliterals t (List.mem_cons_of_mem _ ht)
    exact List.forall_mem_cons.2 ⟨htext, hrest⟩
  | @param name value part segments values parts hescapes rest ih =>
    obtain ⟨hvalue, hvalues⟩ := List.forall_mem_cons.1 hvalues
    have hpart : IsPart part := by
      refine ⟨?_, hescapes.slash_not_mem⟩
      -- What is empty is read as empty, and the value is not.
      rintro rfl
      have hread : Text.Percent.decodeText "" = value :=
        Text.Percent.decodeText_of_escapes hescapes
      exact hvalue hread.symm
    have hrest := ih hvalues fun t ht ↦ hliterals t (List.mem_cons_of_mem _ ht)
    exact List.forall_mem_cons.2 ⟨hpart, hrest⟩

theorem Fills.matchSegments_eq {segments : List Segment} {values parts : List String}
    (h : Fills segments values parts) :
    matchSegments segments parts = some ((segments.filterMap Segment.name?).zip values) := by
  induction h with
  | nil => rfl
  | literal rest ih => rw [matchSegments, if_pos rfl, ih]; rfl
  | param hescapes rest ih =>
    rw [matchSegments, ih, Text.Percent.decodeText_of_escapes hescapes]
    rfl

def fill (digit : Nat → Char) : List Segment → List String → List String
  | .literal text :: segments, values => text :: fill digit segments values
  | .param _ :: segments, value :: values =>
    Text.Percent.encode digit value :: fill digit segments values
  | _, _ => []

theorem fills_fill {digit : Nat → Char} (hdigit : ∀ n, Text.Percent.IsDigit n (digit n))
    {segments : List Segment} (hopen : ∀ name, .catchAll name ∉ segments) {values : List String}
    (h : values.length = (segments.filterMap Segment.name?).length) :
    Fills segments values (fill digit segments values) := by
  induction segments generalizing values with
  | nil =>
    obtain rfl := List.eq_nil_of_length_eq_zero h
    exact .nil
  | cons s ss ih =>
    have hopen' : ∀ name, .catchAll name ∉ ss := fun name hm ↦
      hopen name (List.mem_cons_of_mem s hm)
    cases s with
    | literal text => exact .literal (ih hopen' h)
    | param name =>
      cases values with
      | nil => cases h
      | cons value values =>
        have hescapes := Text.Percent.escapes_encode hdigit value
        exact .param hescapes (ih hopen' (Nat.succ.inj h))
    | catchAll name => exact absurd List.mem_cons_self (hopen name)

theorem Segment.eq_of_ofText {part text : String} (h : Segment.ofText part = .literal text) :
    part = text := by
  rw [Segment.ofText] at h
  split at h <;> cases h
  rfl

theorem isPart_of_parse {source : String} {p : PathPattern} (h : parse source = .ok p) :
    ∀ text, .literal text ∈ p.segments → IsPart text := by
  obtain ⟨-, -, rfl⟩ := parse_eq_ok_iff.1 h
  intro text htext
  obtain ⟨part, hpart, hof⟩ := List.mem_map.1 htext
  rw [← Segment.eq_of_ofText hof]
  exact isPart_of_mem hpart

theorem joined_flatMap (parts : List String) :
    Joined parts (parts.flatMap fun part ↦ '/' :: part.toList) := by
  induction parts with
  | nil => exact .nil
  | cons part parts ih =>
    rw [List.flatMap_cons, List.cons_append]
    refine .slash (.part (fun c hc ↦ ?_) ih)
    cases parts with
    | nil => cases hc
    | cons next parts =>
      rw [List.flatMap_cons, List.cons_append, List.head?_cons] at hc
      exact (Option.some.inj hc).symm

/-- Whatever is put in the places of the parameters, escaped, is captured under their names. -/
theorem captures_of_filled {source : String} {p : PathPattern} (h : parse source = .ok p)
    (hopen : ∀ name, .catchAll name ∉ p.segments) {values : List String}
    (hvalues : ∀ v ∈ values, v ≠ "") (hlength : values.length = p.names.length) :
    (∀ part, Text.Percent.Reads part (Text.Percent.decodeText part)) ∧
    (∀ parts path, Fills p.segments values parts → Joined parts path.toList →
      p.captures? path = some (p.names.zip values)) ∧
    ∀ digit : Nat → Char, (∀ n, Text.Percent.IsDigit n (digit n)) →
      Fills p.segments values (fill digit p.segments values) ∧
        Joined (fill digit p.segments values)
          ((fill digit p.segments values).flatMap fun part ↦ '/' :: part.toList) := by
  refine ⟨fun part ↦ Text.Percent.decodeText_eq_iff.1 rfl, ?_, ?_⟩
  · intro parts path hfills hjoined
    have hparts := hfills.isPart hvalues (isPart_of_parse h)
    have hsegments : segmentsOf path = parts := by
      rw [← String.ofList_toList (s := path)]
      exact hjoined.segmentsOf_eq hparts
    rw [captures?, hsegments, hfills.matchSegments_eq, names]
  · intro digit hdigit
    exact ⟨fills_fill hdigit hopen hlength, joined_flatMap _⟩

theorem captures_of_filled_shop :
    ∃ p, parse "/shops/{id}/{name}" = .ok p ∧
      p.captures? "/shops//a%2Fb%25%2B%20%7B%7D/%C3%A9%F0%9F%98%80/" =
        some [("id", "a/b%+ {}"), ("name", "é😀")] := by
  let p : PathPattern :=
    ⟨"/shops/{id}/{name}", [.literal "shops", .param "id", .param "name"]⟩
  have hparse : parse "/shops/{id}/{name}" = .ok p := by decide
  have hvalues : ∀ v ∈ ["a/b%+ {}", "é😀"], v ≠ "" := by decide
  obtain ⟨-, hcaptures, hfilled⟩ :=
    captures_of_filled hparse (by simp [p]) hvalues (by decide)
  have hfill : fill Text.Hex.upper p.segments ["a/b%+ {}", "é😀"] =
      ["shops", "a%2Fb%25%2B%20%7B%7D", "%C3%A9%F0%9F%98%80"] := by decide
  have hfills := (hfilled Text.Hex.upper fun n ↦ .inr rfl).1
  rw [hfill] at hfills
  have hlast : Joined ["%C3%A9%F0%9F%98%80"] ("%C3%A9%F0%9F%98%80".toList ++ ['/']) :=
    .part (by simp) (.slash .nil)
  have hmiddle : Joined ["a%2Fb%25%2B%20%7B%7D", "%C3%A9%F0%9F%98%80"]
      ("a%2Fb%25%2B%20%7B%7D".toList ++ '/' :: ("%C3%A9%F0%9F%98%80".toList ++ ['/'])) :=
    .part (by simp) (.slash hlast)
  have hfirst := @Joined.part "shops" _ _ (by simp) (.slash (.slash hmiddle))
  exact ⟨p, hparse, hcaptures _ _ hfills (.slash hfirst)⟩

end WebDispatch.PathPattern
