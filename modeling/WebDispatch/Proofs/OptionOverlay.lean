import WebDispatch.Proofs.ContentTypes

namespace WebDispatch

variable {σ : Type}

/-! ### Defaults -/

namespace Defaults

def afterSet (d : Defaults σ) (call : String × OptionValue σ) : Defaults σ :=
  (d.set call.1 call.2).toOption.getD d

def afterSets (calls : List (String × OptionValue σ)) : Defaults σ :=
  calls.foldl afterSet initial

/-- Every default is of a kind that its key takes, and there are always some headers. -/
structure Sound (d : Defaults σ) : Prop where
  admits : ∀ (key : OptionKey) (v : OptionValue σ), d.get? key = some v → key.admits v = true
  headers : (d.get? .headers).isSome = true

theorem set_eq_ok {d d' : Defaults σ} {name : String} {value : OptionValue σ}
    (h : d.set name value = .ok d') : ∃ key : OptionKey, key.admits value = true ∧
      d' = ⟨fun k ↦ if k = key then some value else d.get? k⟩ := by
  rw [set] at h
  cases hkey : OptionKey.parse name with
  | error e => rw [hkey] at h; cases h
  | ok key =>
    cases hcheck : key.check value with
    | error e => simp only [hkey, hcheck, bind, Except.bind] at h; cases h
    | ok _ =>
      simp only [hkey, hcheck, bind, Except.bind] at h
      cases h
      exact ⟨key, OptionKey.check_eq_ok_iff.1 hcheck, rfl⟩

theorem sound_initial : (initial : Defaults σ).Sound := by
  refine ⟨fun key v hv ↦ ?_, rfl⟩
  cases key <;> cases hv <;> rfl

theorem Sound.afterSet {d : Defaults σ} (h : d.Sound) (call : String × OptionValue σ) :
    (d.afterSet call).Sound := by
  rw [Defaults.afterSet]
  cases hset : d.set call.1 call.2 with
  | error e => exact h
  | ok d' =>
    obtain ⟨key, hadmits, rfl⟩ := set_eq_ok hset
    constructor
    · intro key' v hv
      dsimp only [Except.toOption, Option.getD] at hv
      split at hv
      · rename_i hkey
        rw [hkey, ← Option.some.inj hv]
        exact hadmits
      · exact h.admits key' v hv
    · dsimp only [Except.toOption, Option.getD]
      split
      · rfl
      · exact h.headers

theorem sound_afterSets (calls : List (String × OptionValue σ)) : (afterSets calls).Sound := by
  rw [afterSets]
  induction calls using List.reverseRecOn with
  | nil => exact sound_initial
  | append_singleton calls call ih =>
    rw [List.foldl_append, List.foldl_cons, List.foldl_nil]
    exact ih.afterSet call

theorem Sound.exists_headers {d : Defaults σ} (h : d.Sound) :
    ∃ headers, d.get? .headers = some (.map headers) := by
  obtain ⟨v, hv⟩ := Option.isSome_iff_exists.1 h.headers
  obtain ⟨headers, rfl⟩ := OptionKey.admits_headers (h.admits _ _ hv)
  exact ⟨headers, hv⟩

end Defaults

/-! ### Options that are refused -/

namespace OptionKey

theorem parse_eq_error_iff {name : String} {e : Error} :
    parse name = .error e ↔ (∀ key : OptionKey, name ≠ key.text) ∧ e = .unknownOption name := by
  rw [parse]
  cases hfind : all.find? fun k ↦ k.text = name with
  | some key =>
    have hname : key.text = name := of_decide_eq_true (List.find?_some hfind :)
    have hknown : ¬ ∀ k : OptionKey, name ≠ k.text := fun h ↦ h key hname.symm
    simp only [hknown, false_and, reduceCtorEq]
  | none =>
    have hnone (key : OptionKey) : name ≠ key.text := by
      have hkey := List.find?_eq_none.1 hfind key (by cases key <;> decide)
      exact fun h ↦ hkey (decide_eq_true h.symm)
    simp [hnone, eq_comm]

theorem check_eq_error_iff {key : OptionKey} {v : OptionValue σ} {e : Error} :
    key.check v = .error e ↔ key.admits v = false ∧
      e = .invalidOption key.text ("unexpected " ++ v.kind ++ " value") := by
  rw [check]
  cases key.admits v <;> simp [eq_comm]

end OptionKey

namespace Options

/-- An option that is refused, and the error for it. -/
inductive Fault : String × OptionValue σ → Error → Prop
  | unknown {name : String} {value : OptionValue σ} (h : ∀ key : OptionKey, name ≠ key.text) :
      Fault (name, value) (.unknownOption name)
  | kind {key : OptionKey} {value : OptionValue σ} (h : key.admits value = false) :
      Fault (key.text, value)
        (.invalidOption key.text ("unexpected " ++ value.kind ++ " value"))

theorem admits_or_fault (entry : String × OptionValue σ) :
    Admits entry ∨ ∃ e, Fault entry e := by
  by_cases h : ∃ key : OptionKey, entry.1 = key.text
  · obtain ⟨key, hkey⟩ := h
    cases hadmits : key.admits entry.2 with
    | true => exact .inl ⟨key, hkey, hadmits⟩
    | false =>
      obtain ⟨name, value⟩ := entry
      obtain rfl := hkey
      exact .inr ⟨_, .kind hadmits⟩
  · exact .inr ⟨_, .unknown (not_exists.1 h)⟩

theorem Fault.not_admits {entry : String × OptionValue σ} {e : Error} (h : Fault entry e) :
    ¬ Admits entry := by
  rintro ⟨key, hkey, hadmits⟩
  cases h with
  | unknown h => exact h key hkey
  | kind h =>
    obtain rfl := OptionKey.text_injective hkey
    rw [h] at hadmits
    cases hadmits

theorem checked_cons_of_admits {entry : String × OptionValue σ} (h : Admits entry)
    (es : List (String × OptionValue σ)) :
    ∃ key, checked (entry :: es) = (checked es).map ((key, entry.2) :: ·) := by
  obtain ⟨key, hkey, hadmits⟩ := h
  refine ⟨key, ?_⟩
  rw [checked]
  simp only [hkey, OptionKey.parse_text, OptionKey.check_eq_ok_iff.2 hadmits, bind, Except.bind]
  cases checked es <;> rfl

theorem checked_cons_of_fault {entry : String × OptionValue σ} {e : Error} (h : Fault entry e)
    (es : List (String × OptionValue σ)) : checked (entry :: es) = .error e := by
  cases h with
  | @unknown name value h =>
    simp only [checked, OptionKey.parse_eq_error_iff.2 ⟨h, rfl⟩, bind, Except.bind]
  | @kind key value h =>
    simp only [checked, OptionKey.parse_text, OptionKey.check_eq_error_iff.2 ⟨h, rfl⟩, bind,
      Except.bind]

theorem checked_eq_error_iff {es : List (String × OptionValue σ)} {e : Error} :
    checked es = .error e ↔ ∃ past entry later, es = past ++ entry :: later ∧
      (∀ e' ∈ past, Admits e') ∧ Fault entry e := by
  induction es with
  | nil => simp [checked]
  | cons entry es ih =>
    rcases admits_or_fault entry with hadmits | ⟨e', hfault⟩
    -- An entry that passes is one more in front; one at fault decides, whatever comes behind it.
    · obtain ⟨key, hcons⟩ := checked_cons_of_admits hadmits es
      have hmap : checked (entry :: es) = .error e ↔ checked es = .error e := by
        rw [hcons]
        cases checked es <;> simp [Except.map]
      rw [hmap, ih]
      constructor
      · rintro ⟨past, entry', later, rfl, hpast, hfault⟩
        exact ⟨entry :: past, entry', later, rfl, List.forall_mem_cons.2 ⟨hadmits, hpast⟩, hfault⟩
      · rintro ⟨past, entry', later, hes, hpast, hfault⟩
        cases past with
        | nil =>
          obtain ⟨rfl, -⟩ := List.cons.inj hes
          exact absurd hadmits hfault.not_admits
        | cons first past =>
          obtain ⟨-, rfl⟩ := List.cons.inj hes
          exact ⟨past, entry', later, rfl, (List.forall_mem_cons.1 hpast).2, hfault⟩
    · constructor
      · intro h
        rw [checked_cons_of_fault hfault] at h
        obtain rfl := Except.error.inj h
        exact ⟨[], entry, es, rfl, fun _ hm ↦ absurd hm List.not_mem_nil, hfault⟩
      · rintro ⟨past, entry', later, hes, hpast, hfault'⟩
        cases past with
        | nil =>
          obtain ⟨rfl, -⟩ := List.cons.inj hes
          exact checked_cons_of_fault hfault' es
        | cons first past =>
          obtain ⟨rfl, -⟩ := List.cons.inj hes
          exact absurd (hpast entry List.mem_cons_self) hfault.not_admits

end Options

/-! ### Headers -/

theorem Text.sameIgnoringCase_comm (s t : String) :
    sameIgnoringCase s t = sameIgnoringCase t s := by
  rw [Bool.eq_iff_iff, sameIgnoringCase_iff, sameIgnoringCase_iff, eq_comm]

namespace HandlerConfig

def names (headers : List (String × String)) (name : String) : Bool :=
  headers.any fun h ↦ Text.sameIgnoringCase h.1 name

def lastOfEach : List (String × String) → List (String × String)
  | [] => []
  | h :: hs => if names hs h.1 then lastOfEach hs else h :: lastOfEach hs

theorem foldl_overlay (own headers : List (String × String)) :
    own.foldl overlay headers = headers.filter (fun h ↦ !names own h.1) ++ lastOfEach own := by
  induction own generalizing headers with
  | nil => simp [names, lastOfEach]
  | cons h hs ih =>
    have hnames (name : String) : names (h :: hs) name =
        (names hs name || Text.sameIgnoringCase name h.1) := by
      rw [names, List.any_cons, Bool.or_comm, Text.sameIgnoringCase_comm h.1]
      rfl
    rw [List.foldl_cons, ih, overlay, List.filter_append, List.filter_filter, lastOfEach]
    simp only [hnames, Bool.not_or]
    -- The first header of the list is there to stay unless a later one has its name.
    cases hlast : names hs h.1 with
    | true => simp [hlast]
    | false => simp [hlast]

/-! ### Values -/

/-- A value of a key as the configuration holds it. -/
inductive Shows (c : HandlerConfig σ) : OptionKey → OptionValue σ → Prop
  | template {s : String} (h : c.template = some s) : Shows c .template (.text s)
  | templateType {s : String} (h : c.templateType = s) : Shows c .templateType (.text s)
  | expression {s : String} (h : c.predicate = some (.expression s)) : Shows c .predicate (.text s)
  | predicate {p : PredicateSource σ} (h : c.predicate = some p) : Shows c .predicate (.predicate p)
  | role {s : String} (h : c.rolesAllowed = [s]) : Shows c .rolesAllowed (.text s)
  | roles {items : List String} (h : c.rolesAllowed = items) : Shows c .rolesAllowed (.list items)
  | transactional {b : Bool} (h : c.transactional = b) : Shows c .transactional (.bool b)

/-- What a key that has no value comes to. -/
inductive FallsBack (c : HandlerConfig σ) : OptionKey → Prop
  | template (h : c.template = none) : FallsBack c .template
  | templateType (h : c.templateType = "mustache") : FallsBack c .templateType
  | predicate (h : c.predicate = none) : FallsBack c .predicate
  | roles (h : c.rolesAllowed = []) : FallsBack c .rolesAllowed
  | transactional (h : c.transactional = false) : FallsBack c .transactional

end HandlerConfig

def Options.effective? (o : Options σ) (d : Defaults σ) (key : OptionKey) :
    Option (OptionValue σ) :=
  (o.given key).getLast?.or (d.get? key)

inductive Options.GivesHeaders (o : Options σ) : List (String × String) → Prop
  | last {own : List (String × String)} (h : (o.given .headers).getLast? = some (.map own)) :
      GivesHeaders o own
  | none (h : o.given .headers = []) : GivesHeaders o []

namespace HandlerConfig

/-- A configuration that is put together from options over defaults. -/
structure Overlays (o : Options σ) (d : Defaults σ) (c : HandlerConfig σ) : Prop where
  shows : ∀ key v, key ≠ .headers → o.effective? d key = some v → c.Shows key v
  fallsBack : ∀ key, key ≠ .headers → o.effective? d key = none → c.FallsBack key
  headers : ∃ defaults own, d.get? .headers = some (.map defaults) ∧ o.GivesHeaders own ∧
    c.headers = defaults.filter (fun h ↦ !names own h.1) ++ lastOfEach own ∧
    (c.contentTypeExplicit = true ↔ names own "content-type" = true)

variable {o : Options σ} {d : Defaults σ} {config : HandlerConfig σ}

theorem admits_given (h : ∀ e ∈ o.entries, Options.Admits e) {key : OptionKey}
    {v : OptionValue σ} (hv : v ∈ o.given key) : key.admits v = true := by
  obtain ⟨e, he, rfl⟩ := List.mem_map.1 hv
  obtain ⟨hmem, hname⟩ := List.mem_filter.1 he
  obtain ⟨key', hkey', hadmits⟩ := h e hmem
  obtain rfl := OptionKey.text_injective ((of_decide_eq_true hname).symm.trans hkey')
  exact hadmits

theorem admits_effective (h : ∀ e ∈ o.entries, Options.Admits e) (hd : d.Sound)
    {key : OptionKey} {v : OptionValue σ} (hv : o.effective? d key = some v) :
    key.admits v = true := by
  rcases Option.or_eq_some_iff.1 hv with hlast | ⟨-, hdefault⟩
  · exact admits_given h (List.mem_of_getLast? hlast)
  · exact hd.admits key v hdefault

theorem shows_of_effective {key : OptionKey} {v : OptionValue σ} (hkey : key ≠ .headers)
    (hadmits : key.admits v = true) (hv : o.effective? d key = some v) :
    (ofGiven (fun key ↦ (o.given key).getLast?) d).Shows key v := by
  cases key with
  | template =>
    cases v with
    | text s => exact .template (congrArg textOf hv)
    | _ => cases hadmits
  | templateType =>
    cases v with
    | text s =>
      exact .templateType (congrArg (fun v ↦ (textOf v).getD Defaults.templateType) hv)
    | _ => cases hadmits
  | headers => exact absurd rfl hkey
  | predicate =>
    cases v with
    | text s => exact .expression (congrArg predicateOf hv)
    | predicate p => exact .predicate (congrArg predicateOf hv)
    | _ => cases hadmits
  | rolesAllowed =>
    cases v with
    | text s => exact .role (congrArg rolesOf hv)
    | list items => exact .roles (congrArg rolesOf hv)
    | _ => cases hadmits
  | transactional =>
    cases v with
    | bool b => exact .transactional (congrArg isTrue hv)
    | _ => cases hadmits

theorem fallsBack_of_effective {key : OptionKey} (hkey : key ≠ .headers)
    (hv : o.effective? d key = none) :
    (ofGiven (fun key ↦ (o.given key).getLast?) d).FallsBack key := by
  cases key with
  | template => exact .template (congrArg textOf hv)
  | templateType =>
    exact .templateType (congrArg (fun v ↦ (textOf v).getD Defaults.templateType) hv)
  | headers => exact absurd rfl hkey
  | predicate => exact .predicate (congrArg predicateOf hv)
  | rolesAllowed => exact .roles (congrArg rolesOf hv)
  | transactional => exact .transactional (congrArg isTrue hv)

theorem givesHeaders_ownHeaders (h : ∀ e ∈ o.entries, Options.Admits e) :
    o.GivesHeaders o.ownHeaders := by
  rw [Options.ownHeaders]
  cases hlast : (o.given .headers).getLast? with
  | none => exact .none (List.getLast?_eq_none_iff.1 hlast)
  | some v =>
    obtain ⟨own, rfl⟩ :=
      OptionKey.admits_headers (admits_given h (List.mem_of_getLast? hlast))
    exact .last hlast

theorem overlays_of_validate (hd : d.Sound) (h : validate o d = .ok config) :
    Overlays o d config := by
  obtain ⟨hadmits, hconfig⟩ := validate_eq_ok_iff.1 h
  constructor
  · intro key v hkey hv
    rw [← hconfig]
    exact shows_of_effective hkey (admits_effective hadmits hd hv) hv
  · intro key hkey hv
    rw [← hconfig]
    exact fallsBack_of_effective hkey hv
  · obtain ⟨defaults, hdefaults⟩ := hd.exists_headers
    refine ⟨defaults, o.ownHeaders, hdefaults, givesHeaders_ownHeaders hadmits, ?_, ?_⟩
    · rw [headers_of_validate h, hdefaults, foldl_overlay]
      rfl
    · rw [contentTypeExplicit_of_validate h]
      rfl

theorem validate_eq_error_iff {e : Error} :
    validate o d = .error e ↔ Options.checked o.entries = .error e := by
  rw [validate]
  cases Options.checked o.entries <;> simp [Except.map]

/-- Options are refused with the error of the first entry that is at fault, and else every key comes
to its last value, its default or what it falls back to. -/
theorem validate_exact (calls : List (String × OptionValue σ)) (o : Options σ) :
    ((∃ e, validate o (Defaults.afterSets calls) = .error e) ↔
      ∃ entry ∈ o.entries, ∃ e, Options.Fault entry e) ∧
    (∀ e, validate o (Defaults.afterSets calls) = .error e ↔
      ∃ past entry later, o.entries = past ++ entry :: later ∧
        (∀ e' ∈ past, Options.Admits e') ∧ Options.Fault entry e) ∧
    ∀ config, validate o (Defaults.afterSets calls) = .ok config →
      Overlays o (Defaults.afterSets calls) config := by
  refine ⟨⟨?_, ?_⟩, fun e ↦ validate_eq_error_iff.trans Options.checked_eq_error_iff,
    fun config ↦ overlays_of_validate (Defaults.sound_afterSets calls)⟩
  · rintro ⟨e, he⟩
    obtain ⟨past, entry, later, hes, -, hfault⟩ :=
      Options.checked_eq_error_iff.1 (validate_eq_error_iff.1 he)
    have hmem : entry ∈ o.entries := by
      rw [hes]
      exact List.mem_append_right past List.mem_cons_self
    exact ⟨entry, hmem, e, hfault⟩
  · rintro ⟨entry, hmem, e, hfault⟩
    cases hvalid : validate o (Defaults.afterSets calls) with
    | error e' => exact ⟨e', rfl⟩
    | ok config =>
      have hadmits := (validate_eq_ok_iff.1 hvalid).1 entry hmem
      exact absurd hadmits hfault.not_admits

example : validate (σ := Unit)
    ⟨[("roles_allowed", .bool true), ("roles_allowed", .text "admin")]⟩ .initial =
      .error (.invalidOption "roles_allowed" "unexpected boolean value") := rfl

end HandlerConfig

end WebDispatch
