import Mathlib.Data.List.Induction
import Mathlib.Data.List.Perm.Basic
import WebDispatch.Proofs.HeaderOptions

namespace WebDispatch

variable {σ : Type}

namespace Options

/-! ### Calls of the builder -/

/-- What the builder is told for one key. -/
inductive Call
  | template (name : String)
  | templateType (engine : String)
  | headers (pairs : List (String × String))
  | predicate (expression : String)
  | rolesAllowed (roles : List String)
  | transactional (enabled : Bool)

namespace Call

def key : Call → OptionKey
  | template _ => .template
  | templateType _ => .templateType
  | headers _ => .headers
  | predicate _ => .predicate
  | rolesAllowed _ => .rolesAllowed
  | transactional _ => .transactional

def perform (o : Options σ) : Call → Options σ
  | template name => o.template name
  | templateType engine => o.templateType engine
  | headers pairs => pairs.foldl (fun o pair ↦ o.header pair.1 pair.2) o
  | predicate expression => o.predicate (.expression expression)
  | rolesAllowed roles => o.rolesAllowed roles
  | transactional enabled => o.transactional enabled

def value? : Call → Option (OptionValue σ)
  | template name => some (.text name)
  | templateType engine => some (.text engine)
  | headers [] => none
  | headers (pair :: pairs) => some (.map (pair :: pairs))
  | predicate expression => some (.predicate (.expression expression))
  | rolesAllowed roles => some (.list roles)
  | transactional enabled => some (.bool enabled)

def asEntry (c : Call) : Option (String × OptionValue σ) :=
  c.value?.map fun v ↦ (c.key.text, v)

end Call

def build (calls : List Call) : Options σ :=
  calls.foldl Call.perform empty

variable {o : Options σ} {pair : String × String} {calls : List Call} {key : OptionKey}

theorem extendHeaders_append_of_ne {es : List (String × OptionValue σ)}
    (h : ∀ e ∈ es, e.1 ≠ OptionKey.headers.text) (later : List (String × OptionValue σ)) :
    extendHeaders pair (es ++ later) = (extendHeaders pair later).map (es ++ ·) := by
  induction es with
  | nil => simp
  | cons e es ih =>
    obtain ⟨hne, hes⟩ := List.forall_mem_cons.1 h
    rw [List.cons_append, extendHeaders_cons_of_ne hne, ih hes, Option.map_map]
    rfl

theorem foldl_header (h : o.given .headers = []) (pairs : List (String × String)) :
    pairs.foldl (fun o pair ↦ o.header pair.1 pair.2) o =
      ⟨o.entries ++ (Call.headers pairs).asEntry.toList⟩ := by
  have hne := given_eq_nil_iff.1 h
  induction pairs using List.reverseRecOn with
  | nil => simp [Call.asEntry, Call.value?]
  | append_singleton pairs pair ih =>
    rw [List.foldl_append, ih, List.foldl_cons, List.foldl_nil, header,
      extendHeaders_append_of_ne hne]
    -- The first header makes the entry, and the others are added to it.
    cases pairs with
    | nil => simp [Call.asEntry, Call.value?, Call.key, extendHeaders, set]
    | cons first pairs => rfl

theorem perform_eq {c : Call} (h : o.given c.key = []) :
    c.perform o = ⟨o.entries ++ c.asEntry.toList⟩ := by
  cases c with
  | headers pairs => exact foldl_header h pairs
  | _ => rfl

theorem exists_call_of_mem {e : String × OptionValue σ} (h : e ∈ calls.filterMap Call.asEntry) :
    ∃ c ∈ calls, e.1 = c.key.text ∧ c.value? = some e.2 := by
  obtain ⟨c, hc, he⟩ := List.mem_filterMap.1 h
  obtain ⟨v, hv, rfl⟩ := Option.map_eq_some_iff.1 he
  exact ⟨c, hc, rfl, hv⟩

theorem Call.admits_of_value? {c : Call} {v : OptionValue σ} (h : c.value? = some v) :
    c.key.admits v = true := by
  cases c with
  | headers pairs =>
    cases pairs with
    | nil => cases h
    | cons pair pairs =>
      cases h
      rfl
  | _ =>
    cases h
    rfl

theorem given_filterMap_of_not_mem (h : key ∉ calls.map Call.key) :
    (Options.mk (σ := σ) (calls.filterMap Call.asEntry)).given key = [] := by
  refine given_eq_nil_iff.2 fun e he hname ↦ h ?_
  obtain ⟨c, hc, hkey, -⟩ := exists_call_of_mem he
  rw [OptionKey.text_injective (hname.symm.trans hkey)]
  exact List.mem_map_of_mem hc

theorem build_eq (h : (calls.map Call.key).Nodup) :
    build calls = (⟨calls.filterMap Call.asEntry⟩ : Options σ) := by
  induction calls using List.reverseRecOn with
  | nil => rfl
  | append_singleton calls c ih =>
    rw [List.map_append, List.nodup_append] at h
    obtain ⟨hcalls, -, hdisjoint⟩ := h
    have hfresh : c.key ∉ calls.map Call.key := by
      intro hc
      exact hdisjoint _ hc _ (by simp) rfl
    rw [build, List.foldl_append, ← build, ih hcalls, List.foldl_cons, List.foldl_nil,
      perform_eq (given_filterMap_of_not_mem hfresh), List.filterMap_append]
    cases hentry : c.asEntry (σ := σ) <;> simp [hentry]

theorem admits_build (h : (calls.map Call.key).Nodup) :
    ∀ e ∈ (build calls : Options σ).entries, Admits e := by
  rw [build_eq h]
  intro e he
  obtain ⟨c, -, hname, hvalue⟩ := exists_call_of_mem he
  exact ⟨c.key, hname, c.admits_of_value? hvalue⟩

/-! ### Fields of an object -/

/-- A field of an object says what a call does. -/
inductive Written : String × Json → Call → Prop
  | template (name : String) : Written ("template", .string name) (.template name)
  | templateType (engine : String) :
      Written ("template_type", .string engine) (.templateType engine)
  | headers (pairs : List (String × String)) :
      Written ("headers", .object (pairs.map fun p ↦ (p.1, .string p.2))) (.headers pairs)
  | predicate (expression : String) :
      Written ("predicate", .string expression) (.predicate expression)
  | role (role : String) : Written ("roles_allowed", .string role) (.rolesAllowed [role])
  | roles (roles : List String) :
      Written ("roles_allowed", .array (roles.map .string)) (.rolesAllowed roles)
  | transactional (enabled : Bool) :
      Written ("transactional", .bool enabled) (.transactional enabled)

theorem listOfJson_eq_ok_iff {name : String} {items : List Json} {texts : List String} :
    listOfJson name items = .ok texts ↔ items = texts.map .string := by
  induction items generalizing texts with
  | nil => cases texts <;> simp [listOfJson]
  | cons item items ih =>
    cases item with
    | string s =>
      rw [listOfJson, map_eq_ok_iff]
      constructor
      · intro h
        obtain ⟨rest, hrest, hall⟩ := h
        rw [ih.1 hrest, ← hall, List.map_cons]
      · intro h
        cases texts with
        | nil => cases h
        | cons text texts =>
          cases h
          exact ⟨texts, ih.2 rfl, rfl⟩
    | _ => cases texts <;> simp [listOfJson]

theorem mapOfJson_eq_ok_iff {name : String} {fields : List (String × Json)}
    {pairs : List (String × String)} :
    mapOfJson name fields = .ok pairs ↔ fields = pairs.map fun p ↦ (p.1, .string p.2) := by
  induction fields generalizing pairs with
  | nil => cases pairs <;> simp [mapOfJson]
  | cons field fields ih =>
    obtain ⟨key, v⟩ := field
    cases v with
    | string s =>
      rw [mapOfJson, map_eq_ok_iff]
      constructor
      · intro h
        obtain ⟨rest, hrest, hall⟩ := h
        rw [ih.1 hrest, ← hall, List.map_cons]
      · intro h
        cases pairs with
        | nil => cases h
        | cons pair pairs =>
          cases h
          exact ⟨pairs, ih.2 rfl, rfl⟩
    | _ => cases pairs <;> simp [mapOfJson]

/-- Values of a key that come to the same: a role by itself is a list of one, and no headers are as
good as no value. -/
inductive Alike : OptionKey → Option (OptionValue σ) → Option (OptionValue σ) → Prop
  | same (key : OptionKey) (v : Option (OptionValue σ)) : Alike key v v
  | role (role : String) : Alike .rolesAllowed (some (.text role)) (some (.list [role]))
  | noHeaders : Alike .headers (some (.map [])) none

structure Matches (e : String × OptionValue σ) (c : Call) : Prop where
  name : e.1 = c.key.text
  admits : c.key.admits e.2 = true
  alike : Alike c.key (some e.2) c.value?

theorem Written.exists_value {field : String × Json} {c : Call} (h : Written field c) :
    ∃ v : OptionValue σ, valueOfJson field.1 field.2 = .ok v ∧ Matches (field.1, v) c := by
  cases h with
  | template name => exact ⟨.text name, rfl, rfl, rfl, .same ..⟩
  | templateType engine => exact ⟨.text engine, rfl, rfl, rfl, .same ..⟩
  | headers pairs =>
    refine ⟨.map pairs, ?_, rfl, rfl, ?_⟩
    · simp only [valueOfJson, mapOfJson_eq_ok_iff.2 rfl]
      rfl
    · cases pairs with
      | nil => exact .noHeaders
      | cons pair pairs => exact .same ..
  | predicate expression => exact ⟨.predicate (.expression expression), rfl, rfl, rfl, .same ..⟩
  | role role => exact ⟨.text role, rfl, rfl, rfl, .role role⟩
  | roles roles =>
    refine ⟨.list roles, ?_, rfl, rfl, .same ..⟩
    simp only [valueOfJson, listOfJson_eq_ok_iff.2 rfl]
    rfl
  | transactional enabled => exact ⟨.bool enabled, rfl, rfl, rfl, .same ..⟩

theorem exists_written {name : String} {v : Json} {value : OptionValue σ}
    (h : valueOfJson name v = .ok value) (hadmits : Admits (name, value)) :
    ∃ c, Written (name, v) c := by
  obtain ⟨key, hname, hadmits⟩ := hadmits
  dsimp only at hname hadmits
  subst hname
  cases v with
  | null => cases h
  | number n => cases h
  | bool b =>
    cases h
    cases key with
    | transactional => exact ⟨_, .transactional b⟩
    | _ => cases hadmits
  | string s =>
    cases key with
    | template => exact ⟨_, .template s⟩
    | templateType => exact ⟨_, .templateType s⟩
    | predicate => exact ⟨_, .predicate s⟩
    | rolesAllowed => exact ⟨_, .role s⟩
    | _ =>
      cases h
      cases hadmits
  | array items =>
    obtain ⟨texts, htexts, rfl⟩ := map_eq_ok_iff.1 h
    rw [listOfJson_eq_ok_iff.1 htexts]
    cases key with
    | rolesAllowed => exact ⟨_, .roles texts⟩
    | _ => cases hadmits
  | object fields =>
    obtain ⟨pairs, hpairs, rfl⟩ := map_eq_ok_iff.1 h
    rw [mapOfJson_eq_ok_iff.1 hpairs]
    cases key with
    | headers => exact ⟨_, .headers pairs⟩
    | _ => cases hadmits

/-! ### Whole objects -/

theorem exists_calls {fields : List (String × Json)} {es : List (String × OptionValue σ)}
    (h : entriesOfJson fields = .ok es) (hadmits : ∀ e ∈ es, Admits e) :
    ∃ calls, List.Forall₂ Written fields calls := by
  induction fields generalizing es with
  | nil => exact ⟨[], .nil⟩
  | cons field fields ih =>
    obtain ⟨value, rest, hvalue, hrest, rfl⟩ := entriesOfJson_cons_eq_ok_iff.1 h
    obtain ⟨hfirst, hothers⟩ := List.forall_mem_cons.1 hadmits
    obtain ⟨c, hc⟩ := exists_written hvalue hfirst
    obtain ⟨calls, hcalls⟩ := ih hrest hothers
    exact ⟨c :: calls, .cons hc hcalls⟩

theorem exists_entries {fields : List (String × Json)}
    (h : List.Forall₂ Written fields calls) :
    ∃ es : List (String × OptionValue σ), entriesOfJson fields = .ok es ∧
      List.Forall₂ Matches es calls := by
  induction h with
  | nil => exact ⟨[], rfl, .nil⟩
  | @cons field c fields calls hc _ ih =>
    obtain ⟨v, hv, hmatches⟩ := hc.exists_value (σ := σ)
    obtain ⟨es, hes, hrest⟩ := ih
    exact ⟨(field.1, v) :: es, entriesOfJson_cons_eq_ok_iff.2 ⟨v, es, hv, hes, rfl⟩,
      .cons hmatches hrest⟩

theorem exists_ofJson {fields : List (String × Json)} (h : List.Forall₂ Written fields calls) :
    ∃ o : Options σ, ofJson (.object fields) = .ok o ∧ List.Forall₂ Matches o.entries calls ∧
      o.entries.map Prod.fst = fields.map Prod.fst := by
  obtain ⟨es, hes, hmatches⟩ := exists_entries (σ := σ) h
  exact ⟨⟨es⟩, ofJson_eq_ok_iff.2 ⟨fields, rfl, hes⟩, hmatches, names_of_entriesOfJson hes⟩

variable {es : List (String × OptionValue σ)}

theorem admits_of_matches (h : List.Forall₂ Matches es calls) : ∀ e ∈ es, Admits e := by
  induction h with
  | nil => exact fun e he ↦ absurd he List.not_mem_nil
  | cons he _ ih => exact List.forall_mem_cons.2 ⟨⟨_, he.name, he.admits⟩, ih⟩

theorem names_of_matches (h : List.Forall₂ Matches es calls) :
    es.map Prod.fst = (calls.map Call.key).map OptionKey.text := by
  induction h with
  | nil => rfl
  | cons he _ ih => rw [List.map_cons, List.map_cons, List.map_cons, he.name, ih]

theorem given_eq_nil_of_matches (h : List.Forall₂ Matches es calls)
    (hkey : key ∉ calls.map Call.key) : (Options.mk es).given key = [] := by
  refine given_eq_nil_iff.2 fun e he hname ↦ hkey ?_
  have hmem : e.1 ∈ (calls.map Call.key).map OptionKey.text := by
    rw [← names_of_matches h]
    exact List.mem_map_of_mem he
  obtain ⟨key', hkey', htext⟩ := List.mem_map.1 hmem
  rwa [OptionKey.text_injective (hname.symm.trans htext.symm)]

theorem given_toList (c : Call) (key : OptionKey) :
    (Options.mk (σ := σ) c.asEntry.toList).given key =
      if c.key = key then c.value?.toList else [] := by
  have htext : c.key.text = key.text ↔ c.key = key :=
    ⟨OptionKey.text_injective, congrArg OptionKey.text⟩
  cases hvalue : c.value? (σ := σ) with
  | none => simp [Call.asEntry, hvalue, given]
  | some v => by_cases hkey : c.key = key <;> simp [Call.asEntry, hvalue, given, htext, hkey]

theorem alike_of_matches (h : List.Forall₂ Matches es calls)
    (hnodup : (calls.map Call.key).Nodup) (key : OptionKey) :
    Alike key ((Options.mk es).given key).getLast? ((build calls).given key).getLast? := by
  rw [build_eq hnodup]
  induction h with
  | nil => exact .same ..
  | @cons e c es calls he hrest ih =>
    obtain ⟨hfresh, hothers⟩ := List.nodup_cons.1 hnodup
    have hbuilt : (c :: calls).filterMap Call.asEntry =
        (c.asEntry (σ := σ)).toList ++ calls.filterMap Call.asEntry := by
      cases hentry : c.asEntry (σ := σ) <;> simp [hentry]
    rw [hbuilt, given_append, given_cons, given_toList, he.name]
    by_cases hkey : c.key = key
    -- No other entry is for the key of the first.
    · subst hkey
      rw [given_eq_nil_of_matches hrest hfresh, given_filterMap_of_not_mem hfresh]
      have hlast : (c.value? (σ := σ)).toList.getLast? = c.value? := by
        cases c.value? (σ := σ) <;> rfl
      simpa [hlast] using he.alike
    · have hne : c.key.text ≠ key.text := fun h ↦ hkey (OptionKey.text_injective h)
      simp only [hkey, hne, if_false, List.nil_append]
      exact ih hothers

theorem given_perm {es' : List (String × OptionValue σ)} (h : es.Perm es')
    (hnodup : (es.map Prod.fst).Nodup) (key : OptionKey) :
    (Options.mk es).given key = (Options.mk es').given key := by
  have hperm : ((Options.mk es).given key).Perm ((Options.mk es').given key) :=
    (h.filter _).map _
  have hle := length_given_le_of_nodup (o := ⟨es⟩) hnodup key
  match hes : (Options.mk es).given key with
  | [] =>
    rw [hes] at hperm
    exact hperm.nil_eq
  | [v] =>
    rw [hes] at hperm
    exact List.singleton_perm.1 hperm
  | v :: v' :: vs =>
    rw [hes] at hle
    simp at hle

end Options

namespace HandlerConfig

/-! ### The configuration -/

variable {v v' default : Option (OptionValue σ)}

theorem eq_of_alike {key : OptionKey} (h : Options.Alike key v v') (hroles : key ≠ .rolesAllowed)
    (hheaders : key ≠ .headers) : v = v' := by
  cases h with
  | same => rfl
  | role role => exact absurd rfl hroles
  | noHeaders => exact absurd rfl hheaders

theorem rolesOf_of_alike (h : Options.Alike .rolesAllowed v v') :
    rolesOf (v.or default) = rolesOf (v'.or default) := by
  cases h with
  | same => rfl
  | role role => rfl

theorem pairs_of_alike (h : Options.Alike .headers v v') : pairs v = pairs v' := by
  cases h with
  | same => rfl
  | noHeaders => rfl

theorem ofGiven_of_alike {given given' : OptionKey → Option (OptionValue σ)}
    (h : ∀ key, Options.Alike key (given key) (given' key)) (d : Defaults σ) :
    ofGiven given d = ofGiven given' d := by
  have htemplate := eq_of_alike (h .template) (by decide) (by decide)
  have hengine := eq_of_alike (h .templateType) (by decide) (by decide)
  have hpredicate := eq_of_alike (h .predicate) (by decide) (by decide)
  have htransactional := eq_of_alike (h .transactional) (by decide) (by decide)
  simp only [ofGiven, htemplate, hengine, hpredicate, htransactional,
    rolesOf_of_alike (h .rolesAllowed), pairs_of_alike (h .headers)]

theorem exists_validate_build {fields : List (String × Json)} {calls calls' : List Options.Call}
    (h : List.Forall₂ Options.Written fields calls) (hnodup : (fields.map Prod.fst).Nodup)
    (hperm : calls'.Perm calls) (d : Defaults σ) :
    ∃ o config, Options.ofJson (.object fields) = .ok o ∧ validate o d = .ok config ∧
      validate (Options.build calls') d = .ok config := by
  obtain ⟨o, ho, hmatches, hnames⟩ := Options.exists_ofJson (σ := σ) h
  obtain ⟨es, hmatches', hes⟩ := List.perm_comp_forall₂ hperm hmatches.flip
  rw [← hnames] at hnodup
  have hkeys : (calls.map Options.Call.key).Nodup := by
    have htexts := hnodup
    rw [Options.names_of_matches hmatches] at htexts
    exact htexts.of_map _
  have hkeys' : (calls'.map Options.Call.key).Nodup := (hperm.map _).nodup_iff.2 hkeys
  have halike (key : OptionKey) : Options.Alike key (o.given key).getLast?
      ((Options.build calls').given key).getLast? := by
    rw [Options.given_perm hes.symm hnodup]
    exact Options.alike_of_matches hmatches'.flip hkeys' key
  refine ⟨o, _, ho, validate_eq_ok_iff.2 ⟨Options.admits_of_matches hmatches, rfl⟩, ?_⟩
  exact validate_eq_ok_iff.2 ⟨Options.admits_build hkeys', (ofGiven_of_alike halike d).symm⟩

/-- Options can be written down exactly as the builder can be told of them: an object makes a
configuration if each of its fields says what a call does, and then those calls, in any order, make
the same one. -/
theorem validate_ofJson_exact (v : Json) (d : Defaults σ) :
    ((∃ o config, Options.ofJson v = .ok o ∧ validate o d = .ok config) ↔
      ∃ fields calls, v = .object fields ∧ List.Forall₂ Options.Written fields calls) ∧
    ∀ fields calls calls', v = .object fields → (fields.map Prod.fst).Nodup →
      List.Forall₂ Options.Written fields calls → calls'.Perm calls →
      ∃ o config, Options.ofJson v = .ok o ∧ validate o d = .ok config ∧
        validate (Options.build calls') d = .ok config := by
  refine ⟨⟨?_, ?_⟩, ?_⟩
  · intro h
    obtain ⟨o, config, ho, hconfig⟩ := h
    obtain ⟨fields, rfl, hes⟩ := Options.ofJson_eq_ok_iff.1 ho
    obtain ⟨calls, hcalls⟩ := Options.exists_calls hes (validate_eq_ok_iff.1 hconfig).1
    exact ⟨fields, calls, rfl, hcalls⟩
  · intro h
    obtain ⟨fields, calls, hv, hcalls⟩ := h
    subst hv
    obtain ⟨o, ho, hmatches, -⟩ := Options.exists_ofJson (σ := σ) hcalls
    exact ⟨o, _, ho, validate_eq_ok_iff.2 ⟨Options.admits_of_matches hmatches, rfl⟩⟩
  · intro fields calls calls' hv hnodup hcalls hperm
    subst hv
    exact exists_validate_build hcalls hnodup hperm d

example (d : Defaults σ) :
    (Options.ofJson (.object [("headers", .object []), ("roles_allowed", .string "admin")])).bind
      (validate · d) = validate (Options.empty.rolesAllowed ["admin"]) d := rfl

end HandlerConfig

end WebDispatch
