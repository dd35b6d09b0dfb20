import WebDispatch.Proofs.RegistrationHistory

namespace WebDispatch

variable {σ : Type}

/-! ### Specifiers with a key -/

namespace Text

theorem cut_keyed {key : String} (h : ':' ∉ key.toList) (name : String) :
    cut ':' (key ++ ":" ++ name) = some (key, name) :=
  cut_eq_some_iff.2 ⟨rfl, h⟩

theorem cut_eq_none_iff {s : String} : cut ':' s = none ↔ ':' ∉ s.toList := by
  rw [cut, Option.map_eq_none_iff, cutFirst_eq_none_iff]

theorem eq_keyed_of_cut {s key name : String} (h : cut ':' s = some (key, name)) :
    s = key ++ ":" ++ name ∧ ':' ∉ key.toList :=
  cut_eq_some_iff.1 h

end Text

/-! ### What a specifier denotes -/

namespace Injector

inductive Target
  | nothing
  | keyed (key name : String)
  deriving DecidableEq, Repr

/-- What a specifier denotes after a history of definitions, each a name with a specifier: one with
a colon itself, and an alias what the specifier of its last definition denoted before that. -/
inductive Denotes : List (String × String) → String → Target → Prop
  | keyed {history : List (String × String)} {key name : String} (h : ':' ∉ key.toList) :
      Denotes history (key ++ ":" ++ name) (.keyed key name)
  | undefined {history : List (String × String)} {name : String} (h : ':' ∉ name.toList)
      (hnew : name ∉ history.map Prod.fst) : Denotes history name .nothing
  | defined {before after : List (String × String)} {name specifier : String} {t : Target}
      (h : ':' ∉ name.toList) (hlast : name ∉ after.map Prod.fst)
      (definition : Denotes before specifier t) :
      Denotes (before ++ (name, specifier) :: after) name t

theorem denotes_keyed_iff {s key name : String} (h : Text.cut ':' s = some (key, name))
    {history : List (String × String)} {t : Target} :
    Denotes history s t ↔ t = .keyed key name := by
  constructor
  · intro hdenotes
    cases hdenotes with
    | keyed hkey =>
      rw [Text.cut_keyed hkey] at h
      cases h
      rfl
    | undefined hname =>
      rw [Text.cut_eq_none_iff.2 hname] at h
      cases h
    | defined hname =>
      rw [Text.cut_eq_none_iff.2 hname] at h
      cases h
  · rintro rfl
    obtain ⟨rfl, hkey⟩ := Text.eq_keyed_of_cut h
    exact .keyed hkey

theorem denotes_nil_iff {name : String} (h : ':' ∉ name.toList) {t : Target} :
    Denotes [] name t ↔ t = .nothing := by
  constructor
  · intro hdenotes
    generalize hhistory : ([] : List (String × String)) = history at hdenotes
    cases hdenotes with
    | keyed hkey => simp [String.toList_append] at h
    | undefined => rfl
    | defined => simp at hhistory
  · rintro rfl
    exact .undefined h List.not_mem_nil

theorem concat_eq_append_cons {α : Type} {history before after : List α} {last d : α}
    (h : history ++ [last] = before ++ d :: after) :
    after = [] ∧ history = before ∧ last = d ∨
      ∃ rest, after = rest ++ [last] ∧ history = before ++ d :: rest := by
  rcases after.eq_nil_or_concat' with rfl | ⟨rest, e, rfl⟩
  · obtain ⟨rfl, hlast⟩ := List.append_inj' h rfl
    exact .inl ⟨rfl, rfl, List.singleton_inj.1 hlast⟩
  · rw [← List.cons_append, ← List.append_assoc] at h
    obtain ⟨rfl, hlast⟩ := List.append_inj' h rfl
    exact .inr ⟨rest, by rw [hlast], rfl⟩

theorem denotes_concat_self_iff {name : String} (h : ':' ∉ name.toList)
    {history : List (String × String)} {specifier : String} {t : Target} :
    Denotes (history ++ [(name, specifier)]) name t ↔ Denotes history specifier t := by
  constructor
  · intro hdenotes
    generalize hhistory : history ++ [(name, specifier)] = all at hdenotes
    cases hdenotes with
    | keyed hkey => simp [String.toList_append] at h
    | undefined _ hnew => simp [← hhistory] at hnew
    | defined _ hlast definition =>
      rcases concat_eq_append_cons hhistory with ⟨-, rfl, hpair⟩ | ⟨rest, rfl, -⟩
      · cases hpair
        exact definition
      · simp at hlast
  · exact fun definition ↦ .defined h List.not_mem_nil definition

theorem denotes_concat_iff {name other : String} (h : ':' ∉ name.toList) (hne : other ≠ name)
    {history : List (String × String)} {specifier : String} {t : Target} :
    Denotes (history ++ [(other, specifier)]) name t ↔ Denotes history name t := by
  constructor
  · intro hdenotes
    generalize hhistory : history ++ [(other, specifier)] = all at hdenotes
    cases hdenotes with
    | keyed hkey => simp [String.toList_append] at h
    | undefined _ hnew =>
      subst hhistory
      exact .undefined h fun hmem ↦ hnew (by simp [hmem])
    | defined _ hlast definition =>
      rcases concat_eq_append_cons hhistory with ⟨-, -, hpair⟩ | ⟨rest, rfl, rfl⟩
      · cases hpair
        exact absurd rfl hne
      · exact .defined h (fun hmem ↦ hlast (by simp [hmem])) definition
  · intro hdenotes
    cases hdenotes with
    | keyed hkey => exact .keyed hkey
    | undefined _ hnew => exact .undefined h (by simp [hnew, Ne.symm hne])
    | defined _ hlast definition =>
      rw [List.append_assoc, List.cons_append]
      exact .defined h (by simp [hlast, Ne.symm hne]) definition

/-- By the history from its end, so that every name in it is looked up in a shorter one. -/
theorem existsUnique_denotes (history : List (String × String)) (specifier : String) :
    ∃! t, Denotes history specifier t := by
  induction history using List.reverseRecOn generalizing specifier with
  | nil =>
    cases hcut : Text.cut ':' specifier with
    | some parts => simp only [denotes_keyed_iff hcut, existsUnique_eq]
    | none => simp only [denotes_nil_iff (Text.cut_eq_none_iff.1 hcut), existsUnique_eq]
  | append_singleton history definition ih =>
    obtain ⟨name, other⟩ := definition
    cases hcut : Text.cut ':' specifier with
    | some parts => simp only [denotes_keyed_iff hcut, existsUnique_eq]
    | none =>
      have hspecifier := Text.cut_eq_none_iff.1 hcut
      by_cases hname : name = specifier
      · subst hname
        simpa only [denotes_concat_self_iff hspecifier] using ih other
      · simpa only [denotes_concat_iff hspecifier hname] using ih specifier

/-! ### The table of aliases -/

def Target.resolver (i : Injector σ) : Target → Resolver σ
  | nothing => .null
  | keyed key name =>
    if key = entityKey then .entity (.ofSuffix name)
    else
      match i.provider? key with
      | some p => .provided p name
      | none => .unprovided

def withAliases (i : Injector σ) (history : List (String × String)) : Injector σ :=
  history.foldl (fun i d ↦ i.withAlias d.1 d.2) i

theorem withAliases_append (i : Injector σ) (history later : List (String × String)) :
    i.withAliases (history ++ later) = (i.withAliases history).withAliases later :=
  List.foldl_append

theorem withAliases_eq (i : Injector σ) (history : List (String × String)) :
    i.withAliases history = { i with aliases := (i.withAliases history).aliases } := by
  induction history generalizing i with
  | nil => rfl
  | cons d history ih =>
    have hrest := ih (i.withAlias d.1 d.2)
    exact hrest

theorem resolveSpec_keyed (i : Injector σ) {key : String} (h : ':' ∉ key.toList) (name : String) :
    i.resolveSpec (key ++ ":" ++ name) = (Target.keyed key name).resolver i := by
  rw [resolveSpec, Text.cut_keyed h]
  rfl

theorem resolveSpec_of_colonFree (i : Injector σ) {name : String} (h : ':' ∉ name.toList) :
    i.resolveSpec name = (i.aliases.get? name).getD .null := by
  rw [resolveSpec, Text.cut_eq_none_iff.2 h]

theorem resolveSpec_withAlias_self (i : Injector σ) {name : String} (h : ':' ∉ name.toList)
    (specifier : String) :
    (i.withAlias name specifier).resolveSpec name = i.resolveSpec specifier := by
  rw [resolveSpec_of_colonFree _ h, withAlias, Table.get?_insert, if_pos rfl, Option.getD_some]

theorem resolveSpec_withAlias_of_ne (i : Injector σ) {name other : String} (hne : name ≠ other)
    (specifier : String) : (i.withAlias other specifier).resolveSpec name = i.resolveSpec name := by
  cases hcut : Text.cut ':' name with
  | some parts => rw [resolveSpec, resolveSpec, hcut]; rfl
  | none =>
    have h := Text.cut_eq_none_iff.1 hcut
    rw [resolveSpec_of_colonFree _ h, resolveSpec_of_colonFree _ h, withAlias, Table.get?_insert,
      if_neg hne]

theorem resolveSpec_withAliases_of_not_mem (i : Injector σ) {later : List (String × String)}
    {specifier : String} (h : specifier ∉ later.map Prod.fst) :
    (i.withAliases later).resolveSpec specifier = i.resolveSpec specifier := by
  induction later generalizing i with
  | nil => rfl
  | cons d later ih =>
    rw [List.map_cons, List.mem_cons, not_or] at h
    exact (ih (i.withAlias d.1 d.2) h.2).trans (i.resolveSpec_withAlias_of_ne h.1 d.2)

theorem resolveSpec_of_last (i : Injector σ) {before after : List (String × String)}
    {name specifier : String} (h : ':' ∉ name.toList) (hlast : name ∉ after.map Prod.fst) :
    (i.withAliases (before ++ (name, specifier) :: after)).resolveSpec name =
      (i.withAliases before).resolveSpec specifier := by
  rw [withAliases_append]
  exact (resolveSpec_withAliases_of_not_mem _ hlast).trans (resolveSpec_withAlias_self _ h _)

def start (providers : List (Provider σ)) (processors : List (PostProcessor σ)) : Injector σ :=
  { providers, processors }

variable {providers : List (Provider σ)} {processors : List (PostProcessor σ)}

theorem Denotes.resolveSpec_eq {history : List (String × String)} {specifier : String} {t : Target}
    (h : Denotes history specifier t) :
    ((start providers processors).withAliases history).resolveSpec specifier =
      t.resolver (start providers processors) := by
  induction h with
  | keyed h =>
    rw [resolveSpec_keyed _ h, withAliases_eq]
    rfl
  | undefined h hnew =>
    rw [resolveSpec_withAliases_of_not_mem _ hnew, resolveSpec_of_colonFree _ h]
    rfl
  | defined h hlast definition ih => rw [resolveSpec_of_last _ h hlast, ih]

end Injector

/-! ### Definitions among other registrations -/

def Registration.alias? : Registration σ → Option (String × String)
  | withAlias name specifier => some (name, specifier)
  | _ => none

theorem Injector.foldl_afterCall (i : Injector σ) (calls : List (Registration σ)) :
    calls.foldl Injector.afterCall i = i.withAliases (calls.filterMap Registration.alias?) := by
  induction calls generalizing i with
  | nil => rfl
  | cons c calls ih =>
    rw [List.foldl_cons, ih]
    cases c <;> rfl

/-- What is registered keeps its place and stays what it is, its resolvers included. -/
theorem Setup.afterAll_keeps (s : Setup σ) (calls : List (Registration σ)) :
    (s.afterAll calls).registry.injector =
      s.registry.injector.withAliases (calls.filterMap Registration.alias?) ∧
    s.registry.routes <+: (s.afterAll calls).registry.routes ∧
    s.registry.wrappers <+: (s.afterAll calls).registry.wrappers ∧
    s.registry.channels <+: (s.afterAll calls).registry.channels := by
  obtain ⟨entries, -, hregistry⟩ := s.registry_afterAll calls
  rw [hregistry, ← Injector.foldl_afterCall]
  exact ⟨rfl, List.prefix_append .., List.prefix_append .., List.prefix_append ..⟩

namespace Injector

/-- An alias is a snapshot. After any history of definitions a specifier denotes one thing, found by
going back through the history, and is resolved to that. The last definition of a name counts, read
in the table just before it, also if it names itself or an alias that is defined later; a name that
was never defined is resolved to null, and a specifier with a colon does not ask the table. Later
definitions of other names change nothing, and what is registered keeps the resolvers it has. -/
theorem aliases_are_snapshots (providers : List (Provider σ)) (processors : List (PostProcessor σ))
    (history : List (String × String)) :
    (∀ specifier, ∃ t, Denotes history specifier t ∧
      (∀ t', Denotes history specifier t' → t' = t) ∧
      ((start providers processors).withAliases history).resolveSpec specifier =
        t.resolver (start providers processors)) ∧
    (∀ name, ':' ∉ name.toList →
      (∀ specifier later, name ∉ later.map Prod.fst →
        ((start providers processors).withAliases
            (history ++ (name, specifier) :: later)).resolveSpec name =
          ((start providers processors).withAliases history).resolveSpec specifier) ∧
      (name ∉ history.map Prod.fst →
        ((start providers processors).withAliases history).resolveSpec name = .null)) ∧
    (∀ later specifier, specifier ∉ later.map Prod.fst →
      ((start providers processors).withAliases (history ++ later)).resolveSpec specifier =
        ((start providers processors).withAliases history).resolveSpec specifier) ∧
    (∀ aliases key name, ':' ∉ key.toList →
      ({ providers, processors, aliases } : Injector σ).resolveSpec (key ++ ":" ++ name) =
        (Target.keyed key name).resolver (start providers processors)) ∧
    ∀ (s : Setup σ) (calls : List (Registration σ)),
      (s.afterAll calls).registry.injector =
        s.registry.injector.withAliases (calls.filterMap Registration.alias?) ∧
      s.registry.routes <+: (s.afterAll calls).registry.routes ∧
      s.registry.wrappers <+: (s.afterAll calls).registry.wrappers ∧
      s.registry.channels <+: (s.afterAll calls).registry.channels := by
  refine ⟨fun specifier ↦ ?_, fun name h ↦ ⟨fun specifier later hlater ↦ ?_, fun hnew ↦ ?_⟩,
    fun later specifier hlater ↦ ?_, fun aliases key name h ↦ ?_, Setup.afterAll_keeps⟩
  · obtain ⟨t, hdenotes, hunique⟩ := existsUnique_denotes history specifier
    exact ⟨t, hdenotes, hunique, hdenotes.resolveSpec_eq⟩
  · exact resolveSpec_of_last _ h hlater
  · exact (Denotes.undefined h hnew).resolveSpec_eq
  · rw [withAliases_append]
    exact resolveSpec_withAliases_of_not_mem _ hlater
  · rw [resolveSpec_keyed _ h]
    rfl

example : ((start [] [] : Injector σ).withAliases [("a", "b"), ("b", "a")]).resolveSpec "b" =
    .null := rfl

end Injector

end WebDispatch
