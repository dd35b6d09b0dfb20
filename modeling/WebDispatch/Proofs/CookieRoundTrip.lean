import WebDispatch.Proofs.SessionBinding
import WebDispatch.Proofs.Stripping

namespace WebDispatch

open Http

variable {σ : Type}

namespace Http.Cookie

/-! ### Pieces of a header -/

def IsBlankText (s : String) : Prop :=
  ∀ c ∈ s.toList, Text.isBlank c = true

/-- A name that a cookie can have: no equals sign, and no blank that it begins with. -/
structure IsName (name : String) : Prop where
  unequal : '=' ∉ name.toList
  first : ∀ c ∈ name.toList.head?, Text.isBlank c = false

def IsPlain (value : String) : Prop :=
  ∀ c ∈ value.toList, c ≠ ';' ∧ isQuote c = false ∧ Text.isBlank c = false

theorem isPlain_of_alphanum {value : String}
    (h : ∀ c ∈ value.toList, c.isAlphanum = true ∨ c = '-') : IsPlain value := by
  intro c hc
  obtain halnum | rfl := h c hc
  · refine ⟨?_, ?_, Text.not_blank_of_alphanum halnum⟩
    · intro hsemicolon
      subst hsemicolon
      cases halnum
    · rw [isQuote, beq_eq_false_iff_ne]
      intro hquote
      subst hquote
      cases halnum
  · decide

/-- A piece gives a value under a name, in quotes or without, with any blanks around the pair. -/
inductive Gives (name value : String) : String → Prop
  | plain {front back : String} (hfront : IsBlankText front) (hback : IsBlankText back) :
      Gives name value (front ++ name ++ "=" ++ value ++ back)
  | quoted {front back : String} (hfront : IsBlankText front) (hback : IsBlankText back) :
      Gives name value (front ++ name ++ "=\"" ++ value ++ "\"" ++ back)

/-- A piece says nothing about a name: it is no pair, or one of another name. -/
inductive Ignores (name : String) : String → Prop
  | bare {piece : String} (h : '=' ∉ piece.toList) : Ignores name piece
  | other {front key rest : String} (hfront : IsBlankText front) (hkey : IsName key)
      (hne : key ≠ name) : Ignores name (front ++ key ++ "=" ++ rest)

inductive Leads (name piece : String) : String → Prop
  | intro {before after : List String} (hbefore : ∀ p ∈ before, Ignores name p)
      (hpieces : ∀ p ∈ before ++ piece :: after, ';' ∉ p.toList) :
      Leads name piece (";".intercalate (before ++ piece :: after))

variable {name value piece : String}

theorem equals_not_blank : Text.isBlank '=' = false := by decide

theorem Ignores.valueOf_eq (h : Ignores name piece) : valueOf name.toList piece.toList = none := by
  cases h with
  | bare h =>
    rw [← Text.mem_strip_iff equals_not_blank, ← Text.cutFirst_eq_none_iff] at h
    rw [valueOf, h]
  | @other front key rest hfront hkey hne =>
    obtain ⟨rest', hrest⟩ :=
      Text.exists_strip_append_cons hfront hkey.first equals_not_blank rest.toList
    have hpiece : (front ++ key ++ "=" ++ rest).toList =
        front.toList ++ key.toList ++ '=' :: rest.toList := by
      simp
    have hkeys : key.toList ≠ name.toList := fun h ↦ hne (String.toList_inj.1 h)
    rw [valueOf, hpiece, hrest, Text.cutFirst_append '=' _ _ hkey.unequal]
    simp only [hkeys, if_false]

theorem ignores_of_valueOf (h : valueOf name.toList piece.toList = none) : Ignores name piece := by
  unfold valueOf at h
  split at h
  · rename_i key value hcut
    obtain ⟨hpair, hunequal⟩ := Text.eq_append_of_cutFirst hcut
    obtain ⟨front, back, hfront, hback, hpiece⟩ :=
      Text.exists_eq_append_strip Text.isBlank piece.toList
    have hkey : IsName (.ofList key) := by
      constructor
      · rwa [String.toList_ofList]
      · intro c hc
        rw [String.toList_ofList, Option.mem_def] at hc
        apply Text.eq_false_of_head?_strip
        rw [hpair, List.head?_append, hc, Option.some_or, Option.mem_def]
    have hne : String.ofList key ≠ name := by
      intro hname
      subst hname
      simp at h
    have heq : piece = .ofList front ++ .ofList key ++ "=" ++ .ofList (value ++ back) := by
      rw [← String.toList_inj, hpiece, hpair]
      simp
    rw [heq]
    exact .other (by simpa [IsBlankText] using hfront) hkey hne
  · rename_i hcut
    rw [Text.cutFirst_eq_none_iff, Text.mem_strip_iff equals_not_blank] at hcut
    exact .bare hcut

theorem valueOf_eq_none_iff : valueOf name.toList piece.toList = none ↔ Ignores name piece :=
  ⟨ignores_of_valueOf, Ignores.valueOf_eq⟩

theorem valueOf_between {front quotes back : List Char} (hname : IsName name)
    (hvalue : IsPlain value) (hfront : ∀ c ∈ front, Text.isBlank c = true)
    (hquotes : ∀ c ∈ quotes, c = '"') (hback : ∀ c ∈ back, Text.isBlank c = true) :
    valueOf name.toList
      (front ++ (name.toList ++ '=' :: (quotes ++ value.toList ++ quotes)) ++ back) =
        some value.toList := by
  have hquoted : ∀ c ∈ quotes, isQuote c = true := by
    intro c hc
    rw [hquotes c hc]
    decide
  have hkept : ∀ c ∈ '=' :: (quotes ++ value.toList ++ quotes), Text.isBlank c = false := by
    intro c hc
    simp only [List.mem_cons, List.mem_append] at hc
    obtain rfl | (hq | hv) | hq := hc
    · exact equals_not_blank
    · rw [hquotes c hq]
      decide
    · exact (hvalue c hv).2.2
    · rw [hquotes c hq]
      decide
  have hpair := Text.bare_append hname.first hkept (List.cons_ne_nil _ _)
  have hbare : Text.Bare isQuote value.toList :=
    Text.bare_of_forall fun c hc ↦ (hvalue c hc).2.1
  rw [valueOf, Text.strip_between hfront hpair hback,
    Text.cutFirst_append '=' _ _ hname.unequal]
  simp only [if_true, Text.strip_between hquoted hbare hquoted]

theorem Gives.valueOf_eq (hname : IsName name) (hvalue : IsPlain value)
    (h : Gives name value piece) : valueOf name.toList piece.toList = some value.toList := by
  cases h with
  | @plain front back hfront hback =>
    have hnone : ∀ c ∈ ([] : List Char), c = '"' := fun c hc ↦ absurd hc List.not_mem_nil
    have hfound := valueOf_between hname hvalue hfront hnone hback
    simpa using hfound
  | @quoted front back hfront hback =>
    have hone : ∀ c ∈ ['"'], c = '"' := fun c hc ↦ List.mem_singleton.1 hc
    have hfound := valueOf_between hname hvalue hfront hone hback
    simpa using hfound

/-! ### Whole headers -/

theorem value?_intercalate {pieces : List String} (hne : pieces ≠ [])
    (h : ∀ p ∈ pieces, ';' ∉ p.toList) (name : String) :
    value? (";".intercalate pieces) name =
      (pieces.findSome? fun p ↦ valueOf name.toList p.toList).map .ofList := by
  have hsplit : (";".intercalate pieces).toList.splitOn ';' = pieces.map String.toList := by
    have hnil : pieces.map String.toList ≠ [] := by simpa using hne
    rw [String.toList_intercalate]
    exact List.splitOn_intercalate ';' (by simpa using h) hnil
  rw [value?, hsplit, List.findSome?_map]
  rfl

theorem value?_of_ignored {pieces : List String} (hne : pieces ≠ [])
    (hpieces : ∀ p ∈ pieces, ';' ∉ p.toList) (h : ∀ p ∈ pieces, Ignores name p) :
    value? (";".intercalate pieces) name = none := by
  rw [value?_intercalate hne hpieces, Option.map_eq_none_iff, List.findSome?_eq_none_iff]
  exact fun p hp ↦ (h p hp).valueOf_eq

/-- The first piece that says something about a name decides, and what follows it does not count. -/
theorem Leads.value?_eq {text : String} (h : Leads name piece text)
    (hsome : ¬ Ignores name piece) :
    value? text name = (valueOf name.toList piece.toList).map .ofList := by
  cases h with
  | @intro before after hbefore hpieces =>
    have hignored : before.findSome? (fun p ↦ valueOf name.toList p.toList) = none :=
      List.findSome?_eq_none_iff.2 fun p hp ↦ (hbefore p hp).valueOf_eq
    obtain ⟨value, hvalue⟩ := Option.ne_none_iff_exists'.1 (mt valueOf_eq_none_iff.1 hsome)
    rw [value?_intercalate (by simp) hpieces, List.findSome?_append, hignored, Option.none_or,
      List.findSome?_cons, hvalue]

theorem Leads.alone {text : String} (h : Leads name piece text) : Leads name piece piece := by
  cases h with
  | @intro before after hbefore hpieces =>
    have hpiece : ∀ p ∈ [] ++ [piece], ';' ∉ p.toList := by
      simpa using hpieces piece (by simp)
    have halone : Leads name piece (";".intercalate ([] ++ [piece])) :=
      .intro (fun p hp ↦ absurd hp List.not_mem_nil) hpiece
    simpa using halone

theorem Leads.value?_eq_value? {text : String} (h : Leads name piece text)
    (hsome : ¬ Ignores name piece) : value? text name = value? piece name :=
  (h.value?_eq hsome).trans (h.alone.value?_eq hsome).symm

theorem Leads.value?_of_gives {text : String} (h : Leads name piece text) (hname : IsName name)
    (hvalue : IsPlain value) (hpiece : Gives name value piece) : value? text name = some value := by
  have hfound := hpiece.valueOf_eq hname hvalue
  have hsome : ¬ Ignores name piece := by
    rw [← valueOf_eq_none_iff, hfound]
    exact Option.some_ne_none _
  rw [h.value?_eq hsome, hfound, Option.map_some, String.ofList_toList]

end Http.Cookie

namespace Scene

open Cookie

variable {s : Scene σ} {name id : String}

theorem presents_of_line {earlier later : List HeaderValue} {line : HeaderValue} {text : String}
    (hname : s.world.sessions.cookieName = name) (hlive : s.world.sessions.IsLive s.world.now id)
    (hlines : s.exchange.request.headers.getAll .cookie = earlier ++ line :: later)
    (hearlier : ∀ l ∈ earlier, ∀ t, l.text? = some t → value? t name = none)
    (htext : line.text? = some text) (hvalue : value? text name = some id) : s.Presents id := by
  have hnone : (earlier.filterMap HeaderValue.text?).findSome? (value? · name) = none := by
    rw [List.findSome?_eq_none_iff]
    intro t ht
    obtain ⟨l, hl, hlt⟩ := List.mem_filterMap.1 ht
    exact hearlier l hl t hlt
  refine ⟨?_, hlive⟩
  rw [hname, Exchange.cookie?, hlines, List.filterMap_append, List.filterMap_cons_some htext,
    List.findSome?_append, hnone, Option.none_or, List.findSome?_cons, hvalue]

theorem session_of_presents (hunbound : s.exchange.session = none) (h : s.Presents id) :
    s.session.1 = id ∧ s.session.2.exchange = { s.exchange with session := some id } ∧
      s.session.2.world.sessions.held? id =
        (s.world.sessions.held? id).map fun x ↦ { x with lastAccess := s.world.now } := by
  rw [session_of_unbound hunbound, bindSession_of_presents h]
  refine ⟨rfl, rfl, ?_⟩
  refine (SessionStore.held?_update ..).trans ?_
  rw [if_pos rfl]

end Scene

/-- The cookie that was announced finds its session again. A header is made of pieces between
semicolons; the first of them that has the name decides, whatever follows, and pieces without an
equals sign or of other names, also of those that merely begin or end with the name, are passed
over. -/
theorem Http.Cookie.announced_finds_session {name value : String} (hname : IsName name)
    (hvalue : IsPlain value) :
    (∀ piece text, Leads name piece text → Gives name value piece →
      value? text name = some value ∧
      ∀ (s : Scene σ) (earlier later : List HeaderValue) (line : HeaderValue),
        s.exchange.session = none → s.world.sessions.cookieName = name →
        s.world.sessions.IsLive s.world.now value →
        s.exchange.request.headers.getAll .cookie = earlier ++ line :: later →
        (∀ l ∈ earlier, ∀ t, l.text? = some t → value? t name = none) →
        line.text? = some text →
        s.session.1 = value ∧
        s.session.2.exchange = { s.exchange with session := some value } ∧
        s.session.2.world.sessions.held? value =
          (s.world.sessions.held? value).map fun x ↦ { x with lastAccess := s.world.now }) ∧
    (∀ piece text, Leads name piece text → ¬ Ignores name piece →
      value? text name = value? piece name ∧ (value? piece name).isSome = true) ∧
    (∀ pieces : List String, pieces ≠ [] → (∀ p ∈ pieces, ';' ∉ p.toList) →
      (∀ p ∈ pieces, Ignores name p) → value? (";".intercalate pieces) name = none) := by
  refine ⟨?_, ?_, ?_⟩
  · intro piece text hleads hpiece
    have hfound := hleads.value?_of_gives hname hvalue hpiece
    refine ⟨hfound, ?_⟩
    intro s earlier later line hunbound hcookie hlive hlines hearlier htext
    have hpresents := Scene.presents_of_line hcookie hlive hlines hearlier htext hfound
    exact Scene.session_of_presents hunbound hpresents
  · intro piece text hleads hsome
    refine ⟨hleads.value?_eq_value? hsome, ?_⟩
    rw [hleads.alone.value?_eq hsome, Option.isSome_map, Option.isSome_iff_ne_none]
    exact mt valueOf_eq_none_iff.1 hsome
  · intro pieces hne hpieces hignored
    exact value?_of_ignored hne hpieces hignored

theorem Http.Cookie.announced_finds_session_of_quoted :
    let id := "5f0c1d2e-93b4-4a6e-8f17-2b60c9d4e8a1"
    let text := ";".intercalate ["XSID=1", " broken", " SID=\"" ++ id ++ "\" ", "SID=other"]
    let headers := Headers.empty.append .cookie ⟨Text.Utf8.encode text⟩
    let sessions := ((SessionStore.create "SID" 1000 0).start 0 id).adopt 0 id
    let s : Scene Unit :=
      ⟨.ofRequest ⟨.get, ⟨none, none, "/", none⟩, headers⟩,
        { app := (), sessions, now := 500, ids := fun _ ↦ "" }⟩
    IsName "SID" ∧ IsPlain id ∧ value? text "SID" = some id ∧
      s.session.1 = id ∧ s.session.2.exchange = { s.exchange with session := some id } := by
  intro id text headers sessions s
  have hname : IsName "SID" := ⟨by decide, by simp; decide⟩
  have hvalue : IsPlain id := by
    have hall : id.toList.all (fun c ↦ c.isAlphanum || c = '-') = true := by decide
    exact isPlain_of_alphanum (by simpa using hall)
  have hblank : IsBlankText " " := by
    simp [IsBlankText]
    decide
  have hpiece : Gives "SID" id (" SID=\"" ++ id ++ "\" ") := .quoted hblank hblank
  have hother : Ignores "SID" ("" ++ "XSID" ++ "=" ++ "1") :=
    .other (fun c hc ↦ absurd hc List.not_mem_nil) ⟨by decide, by simp; decide⟩ (by decide)
  have hbefore : ∀ p ∈ ["XSID=1", " broken"], Ignores "SID" p := by
    intro p hp
    simp only [List.mem_cons, List.not_mem_nil, or_false] at hp
    obtain rfl | rfl := hp
    · exact hother
    · exact .bare (by decide)
  have hpieces : ∀ p ∈ ["XSID=1", " broken"] ++ (" SID=\"" ++ id ++ "\" ") :: ["SID=other"],
      ';' ∉ p.toList := by
    decide
  have hleads : Leads "SID" (" SID=\"" ++ id ++ "\" ") text := .intro hbefore hpieces
  obtain ⟨hgiven, -⟩ := announced_finds_session (σ := Unit) hname hvalue
  obtain ⟨hfound, hsession⟩ := hgiven _ text hleads hpiece
  have hunbound : s.exchange.session = none := rfl
  have hcookie : s.world.sessions.cookieName = "SID" := by decide
  have hlive : s.world.sessions.IsLive s.world.now id := ⟨by decide, by decide⟩
  have hlines : s.exchange.request.headers.getAll .cookie =
      [] ++ ⟨Text.Utf8.encode text⟩ :: [] := rfl
  have htext : HeaderValue.text? ⟨Text.Utf8.encode text⟩ = some text := by decide
  obtain ⟨hid, hx, -⟩ := hsession s [] [] ⟨Text.Utf8.encode text⟩ hunbound hcookie hlive hlines
    (fun l hl ↦ absurd hl List.not_mem_nil) htext
  exact ⟨hname, hvalue, hfound, hid, hx⟩

end WebDispatch
