import WebDispatch.Proofs.PatternGrammar

namespace WebDispatch

/-! ### Texts that decoding leaves as they are -/

namespace Text.Percent

/-- Somewhere there is a percent sign with two hexadecimal digits. -/
def HasEscape (bs : Bytes) : Prop :=
  ∃ rest, rest <:+ bs ∧ StartsEscape rest

theorem hasEscape_cons_iff {a : UInt8} {bs : Bytes} (h : ¬ StartsEscape (a :: bs)) :
    HasEscape (a :: bs) ↔ HasEscape bs := by
  constructor
  · rintro ⟨rest, hsuffix, hstarts⟩
    rcases List.suffix_cons_iff.1 hsuffix with rfl | hsuffix
    · exact absurd hstarts h
    · exact ⟨rest, hsuffix, hstarts⟩
  · rintro ⟨rest, hsuffix, hstarts⟩
    exact ⟨rest, List.suffix_cons_iff.2 (.inr hsuffix), hstarts⟩

theorem Decodes.length_le {bs out : Bytes} (h : Decodes bs out) : out.length ≤ bs.length := by
  induction h with
  | nil => exact Nat.le_refl 0
  | escape high low rest ih =>
    simp only [List.length_cons]
    omega
  | plain h rest ih => exact Nat.succ_le_succ ih

theorem Decodes.hasEscape_iff {bs out : Bytes} (h : Decodes bs out) : HasEscape bs ↔ out ≠ bs := by
  induction h with
  | nil =>
    refine iff_of_false ?_ fun hne ↦ hne rfl
    rintro ⟨rest, hsuffix, hstarts⟩
    rw [List.suffix_nil.1 hsuffix] at hstarts
    exact not_startsEscape_of_length_le (by simp) hstarts
  | @escape b c x y bs out high low rest ih =>
    have hstarts : StartsEscape (percent :: b :: c :: bs) := ⟨b, c, bs, x, y, rfl, high, low⟩
    refine iff_of_true ⟨_, List.suffix_rfl, hstarts⟩ fun heq ↦ ?_
    have hlength := congrArg List.length heq
    have hle := rest.length_le
    simp only [List.length_cons] at hlength
    omega
  | plain h rest ih =>
    rw [hasEscape_cons_iff h, ih]
    simp

theorem decodeText_eq_self_iff {s : String} :
    decodeText s = s ↔
      ¬ HasEscape (Utf8.encode s) ∨ ∀ v, ¬ Decodes (Utf8.encode s) (Utf8.encode v) := by
  rw [decodeText_eq_iff]
  constructor
  · intro h
    cases h with
    | decoded h => exact .inl fun hescape ↦ h.hasEscape_iff.1 hescape rfl
    | kept h => exact .inr h
  · rintro (h | h)
    · have hself := decodes_decode (Utf8.encode s)
      rw [not_not.1 (mt hself.hasEscape_iff.2 h)] at hself
      exact .decoded hself
    · exact .kept h

end Text.Percent

/-! ### A parameter and a catch-all at the end of a pattern -/

namespace PathPattern

theorem segmentsOf_append_text (before text : String) :
    segmentsOf (before ++ "/" ++ text) = segmentsOf before ++ segmentsOf text := by
  have hlist : before ++ "/" ++ text = .ofList (before.toList ++ '/' :: text.toList) := by
    simp [← String.toList_inj, String.toList_append]
  rw [hlist, segmentsOf_append_slash, String.ofList_toList, String.ofList_toList]

theorem segmentsOf_ne_nil {text : String} {c : Char} (hc : c ∈ text.toList) (h : c ≠ '/') :
    segmentsOf text ≠ [] := by
  intro hnil
  have hjoined := (segmentsOf_eq_iff.1 hnil).1
  -- Without segments there are slashes only.
  generalize text.toList = cs at hc hjoined
  generalize hparts : ([] : List String) = parts at hjoined
  induction hjoined with
  | nil => cases hc
  | slash rest ih =>
    rcases List.mem_cons.1 hc with rfl | hc
    · exact h rfl
    · exact ih hc hparts
  | part => cases hparts

theorem segments_of_parse {source : String} {p : PathPattern} (h : parse source = .ok p) :
    p.segments = (segmentsOf source).map .ofText ∧ ∀ i f, ¬ OffendsAt (segmentsOf source) i f := by
  obtain ⟨-, hfault, rfl⟩ := parse_eq_ok_iff.1 h
  exact ⟨rfl, firstFault_eq_none_iff.1 hfault⟩

theorem fits_of_captures? {source : String} {p : PathPattern} (h : parse source = .ok p)
    {path : String} {captures : List (String × String)} (hc : p.captures? path = some captures) :
    Fits p.segments (segmentsOf path) ∧ captures = capturesOf p.segments (segmentsOf path) :=
  (matchSegments_eq_some_iff (placed_of_parse h)).1 hc

theorem literal_of_unclosed (text : String) (h : text.toList.getLast? ≠ some '\x7d') :
    Segment.ofText ("\x7b" ++ text) = .literal ("\x7b" ++ text) := by
  refine Segment.ofText_eq_iff.2 (.literal fun inner heq ↦ h ?_)
  have hlist : text.toList = inner.toList ++ ['\x7d'] := by
    simpa [String.toList_append] using congrArg String.toList heq
  rw [hlist, List.getLast?_concat]

theorem literal_of_fits {source : String} {p : PathPattern} (h : parse source = .ok p)
    {path : String} {captures : List (String × String)} (hc : p.captures? path = some captures)
    {before tail : List String} {text : String}
    (hsegments : segmentsOf source = before ++ text :: tail)
    (htext : Segment.ofText text = .literal text) :
    (segmentsOf path)[before.length]? = some text := by
  refine (fits_of_captures? h hc).1.literal _ _ ?_
  rw [(segments_of_parse h).1, hsegments]
  simp [htext]

theorem segmentsOf_of_slash (before opening : String) {name : String} (hopening : IsPart opening)
    {first rest : List Char} (hname : name.toList = first ++ '/' :: rest) (hfirst : '/' ∉ first) :
    segmentsOf (before ++ "/" ++ (opening ++ name ++ "\x7d")) =
      segmentsOf before ++ (opening ++ .ofList first) :: segmentsOf (.ofList rest ++ "\x7d") := by
  have htext : opening ++ name ++ "\x7d" =
      (opening ++ .ofList first) ++ "/" ++ (.ofList rest ++ "\x7d") := by
    simp [← String.toList_inj, String.toList_append, hname]
  have hpart : IsPart (opening ++ .ofList first) :=
    ⟨by simp [hopening.1], by simp [String.toList_append, hopening.2, hfirst]⟩
  rw [segmentsOf_append_text, htext, segmentsOf_append_text, segmentsOf_of_isPart hpart]
  rfl

/-- The name that a pattern has at its end has no slash in it: what stands before the slash would be
a segment of its own, with a star in one pattern and without in the other. -/
theorem slash_not_mem {before name : String} {p q : PathPattern}
    (hp : parse (before ++ "/" ++ ("\x7b" ++ name ++ "\x7d")) = .ok p)
    (hq : parse (before ++ "/" ++ ("\x7b*" ++ name ++ "\x7d")) = .ok q) {path : String}
    {captures captures' : List (String × String)} (h : p.captures? path = some captures)
    (h' : q.captures? path = some captures') : '/' ∉ name.toList := by
  intro hslash
  obtain ⟨first, rest, hname, hfirst⟩ := List.eq_append_cons_of_mem hslash
  have hplain := segmentsOf_of_slash before "\x7b" ⟨by decide, by decide⟩ hname hfirst
  have hstar := segmentsOf_of_slash before "\x7b*" ⟨by decide, by decide⟩ hname hfirst
  by_cases hclosed : first.getLast? = some '\x7d'
  · -- It would be a catch-all before the last segment.
    obtain ⟨inner, rfl⟩ := List.getLast?_eq_some_iff.1 hclosed
    have htext : "\x7b*" ++ String.ofList (inner ++ ['\x7d']) =
        "\x7b*" ++ .ofList inner ++ "\x7d" := by
      simp [← String.toList_inj, String.toList_append]
    rw [htext] at hstar
    have hplace : (segmentsOf (before ++ "/" ++ ("\x7b*" ++ name ++ "\x7d")))[
        (segmentsOf before).length]? = some ("\x7b*" ++ .ofList inner ++ "\x7d") := by
      simp [hstar]
    refine (segments_of_parse hq).2 _ _ (.misplaced hplace ?_)
    have htail : segmentsOf (.ofList rest ++ "\x7d") ≠ [] :=
      segmentsOf_ne_nil (c := '\x7d') (by simp [String.toList_append]) (by decide)
    have hpos := List.length_pos_iff.2 htail
    rw [hstar, List.length_append, List.length_cons]
    omega
  · -- It would be a literal, and one place of the path would be two different texts.
    have hliteral := literal_of_unclosed (.ofList first) (by rwa [String.toList_ofList])
    have hliteral' := literal_of_unclosed ("*" ++ .ofList first) (by
      cases first <;> simp_all [String.toList_append])
    rw [← String.append_assoc] at hliteral'
    have htext := literal_of_fits hp h hplain hliteral
    rw [literal_of_fits hq h' hstar hliteral'] at htext
    simpa [← String.toList_inj, String.toList_append] using congrArg (·.map String.toList) htext

theorem capturesOf_concat (segments : List Segment) (s : Segment) (parts : List String) :
    capturesOf (segments ++ [s]) parts =
      capturesOf segments parts ++ (s.capture? parts segments.length).toList := by
  rw [capturesOf, List.mapIdx_concat, ← List.concat_eq_append, List.reduceOption_concat]
  rfl

theorem exists_last_of_fits {segments : List Segment} {name : String} {parts : List String}
    (h : Fits (segments ++ [.param name]) parts) :
    ∃ front part, parts = front ++ [part] ∧ front.length = segments.length := by
  have hlength : parts.length = segments.length + 1 := by
    rcases h.length with ⟨-, hlength⟩ | ⟨⟨name, hlast⟩, -⟩
    · simpa using hlength
    · simp at hlast
  rcases parts.eq_nil_or_concat' with rfl | ⟨front, part, rfl⟩
  · cases hlength
  · exact ⟨front, part, rfl, by simpa using hlength⟩

theorem segments_of_parse_append {before text : String} {p : PathPattern}
    (h : parse (before ++ "/" ++ text) = .ok p) (htext : IsPart text) :
    p.segments = (segmentsOf before).map .ofText ++ [.ofText text] := by
  rw [(segments_of_parse h).1, segmentsOf_append_text, segmentsOf_of_isPart htext,
    List.map_append, List.map_singleton]

/-- A parameter and a catch-all at the end of one pattern take the same segment of a path, decoded
by the parameter and as it was sent by the catch-all. So they agree if and only if there is no
escape in it, or its bytes are no UTF-8 when they are decoded. -/
theorem catchAll_agrees_unless_escaped {before name : String} (hname : name.toList.head? ≠ some '*')
    {p q : PathPattern} (hp : parse (before ++ "/" ++ ("\x7b" ++ name ++ "\x7d")) = .ok p)
    (hq : parse (before ++ "/" ++ ("\x7b*" ++ name ++ "\x7d")) = .ok q) {path : String}
    {captures captures' : List (String × String)} (h : p.captures? path = some captures)
    (h' : q.captures? path = some captures') :
    ∃ front part, (segmentsOf path).getLast? = some part ∧
      captures = front ++ [(name, Text.Percent.decodeText part)] ∧
      captures' = front ++ [(name, part)] ∧
      (captures = captures' ↔ ¬ Text.Percent.HasEscape (Text.Utf8.encode part) ∨
        ∀ v, ¬ Text.Percent.Decodes (Text.Utf8.encode part) (Text.Utf8.encode v)) := by
  have hslash := slash_not_mem hp hq h h'
  have hparam : IsPart ("\x7b" ++ name ++ "\x7d") := by
    simp [IsPart, String.toList_append, hslash]
  have hcatchAll : IsPart ("\x7b*" ++ name ++ "\x7d") := by
    simp [IsPart, String.toList_append, hslash]
  have hpsegments := segments_of_parse_append hp hparam
  have hqsegments := segments_of_parse_append hq hcatchAll
  rw [Segment.ofText_eq_iff.2 (.param hname)] at hpsegments
  rw [Segment.ofText_eq_iff.2 (.catchAll name)] at hqsegments
  obtain ⟨hfits, rfl⟩ := fits_of_captures? hp h
  obtain ⟨-, rfl⟩ := fits_of_captures? hq h'
  rw [hpsegments] at hfits
  obtain ⟨front, part, hparts, hlength⟩ := exists_last_of_fits hfits
  refine ⟨capturesOf ((segmentsOf before).map .ofText) (segmentsOf path), part, ?_⟩
  rw [hpsegments, hqsegments, capturesOf_concat, capturesOf_concat, hparts, ← hlength]
  simp [Segment.capture?, ← Text.Percent.decodeText_eq_self_iff]

theorem catchAll_agrees_on_undecodable :
    ∃ p q, parse "/tags/{tag}" = .ok p ∧ parse "/tags/{*tag}" = .ok q ∧
      p.captures? "/tags/%FF" = some [("tag", "%FF")] ∧
      q.captures? "/tags/%FF" = some [("tag", "%FF")] ∧
      (¬ Text.Percent.HasEscape (Text.Utf8.encode "%FF") ∨
        ∀ v, ¬ Text.Percent.Decodes (Text.Utf8.encode "%FF") (Text.Utf8.encode v)) := by
  let p : PathPattern := ⟨"/tags/{tag}", [.literal "tags", .param "tag"]⟩
  let q : PathPattern := ⟨"/tags/{*tag}", [.literal "tags", .catchAll "tag"]⟩
  have hp : parse "/tags/{tag}" = .ok p := by decide
  have hq : parse "/tags/{*tag}" = .ok q := by decide
  have hparam : p.captures? "/tags/%FF" = some [("tag", "%FF")] := by decide
  have hcatchAll : q.captures? "/tags/%FF" = some [("tag", "%FF")] := by decide
  obtain ⟨front, part, hpart, -, -, hagree⟩ := @catchAll_agrees_unless_escaped
    "/tags" "tag" (by decide) p q hp hq _ _ _ hparam hcatchAll
  obtain rfl : "%FF" = part := Option.some.inj hpart
  exact ⟨p, q, hp, hq, hparam, hcatchAll, hagree.1 rfl⟩

theorem catchAll_keeps_escape :
    ∃ p q, parse "/files/{rest}" = .ok p ∧ parse "/files/{*rest}" = .ok q ∧
      p.captures? "/files/a%20b" = some [("rest", "a b")] ∧
      q.captures? "/files/a%20b" = some [("rest", "a%20b")] ∧
      p.captures? "/files/a%20b" ≠ q.captures? "/files/a%20b" :=
  ⟨⟨"/files/{rest}", [.literal "files", .param "rest"]⟩,
    ⟨"/files/{*rest}", [.literal "files", .catchAll "rest"]⟩, by decide, by decide, by decide,
    by decide, by decide⟩

end PathPattern

end WebDispatch
