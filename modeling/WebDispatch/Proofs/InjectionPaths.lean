import WebDispatch.Proofs.InjectedValues

namespace WebDispatch

variable {σ : Type}

/-! ### With and without a request -/

theorem Resolver.exists_resolve_none (r : Resolver σ) (a : σ) :
    ∃ v b, r.resolve none a = (.ok v, b) := by
  cases r <;> exact ⟨_, _, rfl⟩

theorem Resolver.resolve_congr {r : Resolver σ} (h : ∀ kind, r ≠ .entity kind)
    (x y : Option Exchange) : r.resolve x = r.resolve y := by
  cases r with
  | entity kind => exact absurd rfl (h kind)
  | null => rfl
  | provided provider name => rfl
  | unprovided => rfl

theorem Injections.resolveAll_congr {rs : List (Resolver σ)} {x y : Option Exchange}
    (h : ∀ r ∈ rs, r.resolve x = r.resolve y) (processors : List (PostProcessor σ)) :
    resolveAll processors x rs = resolveAll processors y rs := by
  induction rs with
  | nil => rfl
  | cons r rs ih =>
    obtain ⟨hr, hrs⟩ := List.forall_mem_cons.1 h
    rw [resolveAll, resolveAll, hr, ih hrs]

namespace Injector

theorem Target.resolver_ne_entity {t : Target} (h : ∀ suffix, t ≠ .keyed entityKey suffix)
    (i : Injector σ) (kind : EntityKind) : t.resolver i ≠ .entity kind := by
  intro hkind
  cases t with
  | nothing => cases hkind
  | keyed key name =>
    have hkey : key ≠ entityKey := by
      intro hkey
      exact h name (hkey ▸ rfl)
    rw [Target.resolver, if_neg hkey] at hkind
    cases hprovider : i.provider? key with
    | some p =>
      rw [hprovider] at hkind
      cases hkind
    | none =>
      rw [hprovider] at hkind
      cases hkind

theorem resolveSpec_ne_entity (providers : List (Provider σ)) (processors : List (PostProcessor σ))
    {history : List (String × String)} {specifier : String}
    (h : ∀ suffix, ¬ Denotes history specifier (.keyed entityKey suffix)) (kind : EntityKind) :
    ((start providers processors).withAliases history).resolveSpec specifier ≠ .entity kind := by
  obtain ⟨t, ht⟩ := (existsUnique_denotes history specifier).exists
  rw [ht.resolveSpec_eq]
  apply Target.resolver_ne_entity
  intro suffix hsuffix
  exact h suffix (hsuffix ▸ ht)

/-! ### By hand -/

theorem resolveManually_of_ok {i : Injector σ} {specifier : String} {a b c : σ} {v w : Injected σ}
    (h : (i.resolveSpec specifier).resolve none a = (.ok v, b))
    (hv : PostProcessor.runAll i.processors v b = (w, c)) :
    i.resolveManually specifier a = (.ok w, c) := by
  simp only [resolveManually, Bind.bind, StateT.bind, h, hv]
  rfl

theorem resolveManually_of_body (providers : List (Provider σ))
    (processors : List (PostProcessor σ)) {history : List (String × String)}
    {specifier suffix : String} (h : Denotes history specifier (.keyed entityKey suffix)) (a : σ) :
    ((start providers processors).withAliases history).resolveManually specifier a =
      (.ok none, a) := by
  apply resolveManually_of_ok
  · rw [h.resolveSpec_eq, Target.resolver, if_pos rfl]
    rfl
  · rw [withAliases_eq]
    exact (Processed.null : Processed processors 0 none a [] none a).runAll_eq

/-- Specifiers resolved by hand, one after the other. -/
inductive ByHand (i : Injector σ) : List String → σ → List (Injected σ) → σ → Prop
  | nil {a : σ} : ByHand i [] a [] a
  | cons {specifier : String} {specifiers : List String} {a b c : σ} {v : Injected σ}
      {values : List (Injected σ)} (value : i.resolveManually specifier a = (.ok v, b))
      (others : ByHand i specifiers b values c) :
      ByHand i (specifier :: specifiers) a (v :: values) c

theorem exists_byHand (i : Injector σ) (specifiers : List String) (a : σ) :
    ∃ values b, ByHand i specifiers a values b ∧
      (i.bind specifiers).resolve none a = (.ok values, b) := by
  induction specifiers generalizing a with
  | nil => exact ⟨[], a, .nil, rfl⟩
  | cons specifier specifiers ih =>
    obtain ⟨v, b, hv⟩ := (i.resolveSpec specifier).exists_resolve_none a
    rcases hw : PostProcessor.runAll i.processors v b with ⟨w, c⟩
    obtain ⟨values, d, hvalues, hothers⟩ := ih c
    refine ⟨w :: values, d, .cons (resolveManually_of_ok hv hw) hvalues, ?_⟩
    have hsplit := Injections.resolveAll_of_ok hv hw (specifiers.map i.resolveSpec)
    have hrest : Injections.resolveAll i.processors none (specifiers.map i.resolveSpec) c =
        (.ok values, d) := hothers
    rw [hrest] at hsplit
    exact hsplit

theorem exists_resolveManually (i : Injector σ) (specifier : String) (a : σ) :
    ∃ v b, i.resolveManually specifier a = (.ok v, b) ∧
      (i.bind [specifier]).resolve none a = (.ok [v], b) := by
  obtain ⟨values, b, hvalues, hresolve⟩ := i.exists_byHand [specifier] a
  cases hvalues with
  | cons value others =>
    cases others
    exact ⟨_, b, value, hresolve⟩

theorem resolveManually_eq_ok_iff {i : Injector σ} {specifier : String} {a b : σ} {v : Injected σ} :
    i.resolveManually specifier a = (.ok v, b) ↔
      (i.bind [specifier]).resolve none a = (.ok [v], b) := by
  obtain ⟨w, c, hmanual, hbound⟩ := i.exists_resolveManually specifier a
  rw [hmanual, hbound]
  constructor
  · intro h
    cases h
    rfl
  · intro h
    cases h
    rfl

end Injector

theorem ChannelRoute.run_of_resolve {r : ChannelRoute σ} {o : Opening σ}
    {values : List (Injected σ)} {b : σ}
    (h : r.injections.resolve none o.channel.app = (.ok values, b)) :
    r.run o = r.function values { o with channel := { o.channel with app := b } } := by
  have hvalues : Run.ofApp (r.injections.resolve none) o =
      (.ok (.ok values), { o with channel := { o.channel with app := b } }) := by
    simp only [Run.ofApp, Run.ofState, Holds.lift, Holds.app, Holds.setApp, h]
  rw [run, Run.bind_apply, hvalues]
  rfl

/-! ### Query templates before other post-processors -/

def Injected.templated : Injected σ → Injected σ
  | some (.connection c) => some (.database c)
  | v => v

theorem Injected.templated_ne_connection (v : Injected σ) (c : Connection σ) :
    v.templated ≠ some (.connection c) := by
  cases v with
  | none => exact nofun
  | some item => cases item <;> exact nofun

theorem PostProcessor.runAll_queryTemplate (processors : List (PostProcessor σ)) (v : Injected σ) :
    runAll (queryTemplate :: processors) v = runAll processors v.templated := by
  cases v with
  | none => cases processors <;> rfl
  | some item => cases item <;> rfl

/-- What resolvers give in order, if each value is handed to post-processors with a query template
in place of a connection. -/
inductive Templated (processors : List (PostProcessor σ)) (x : Option Exchange) :
    List (Resolver σ) → σ → List (Injected σ) → σ → Prop
  | nil {a : σ} : Templated processors x [] a [] a
  | cons {r : Resolver σ} {rs : List (Resolver σ)} {a b c d : σ} {v w : Injected σ}
      {values : List (Injected σ)} (value : r.resolve x a = (.ok v, b))
      (processing : PostProcessor.runAll processors v.templated b = (w, c))
      (others : Templated processors x rs c values d) :
      Templated processors x (r :: rs) a (w :: values) d

theorem Templated.resolveAll_iff {processors : List (PostProcessor σ)} {x : Option Exchange}
    {rs : List (Resolver σ)} {a b : σ} {values : List (Injected σ)} :
    Injections.resolveAll (.queryTemplate :: processors) x rs a = (.ok values, b) ↔
      Templated processors x rs a values b := by
  constructor
  · intro h
    induction rs generalizing a values with
    | nil =>
      cases h
      exact .nil
    | cons r rs ih =>
      rcases hr : r.resolve x a with ⟨e | v, c⟩
      · rw [Injections.resolveAll_of_error hr] at h
        cases h
      · rcases hw : PostProcessor.runAll processors v.templated c with ⟨w, d⟩
        have hall := hw
        rw [← PostProcessor.runAll_queryTemplate] at hall
        rw [Injections.resolveAll_of_ok hr hall] at h
        rcases hrest : Injections.resolveAll (.queryTemplate :: processors) x rs d with
          ⟨e | others, f⟩
        · rw [hrest] at h
          cases h
        · rw [hrest] at h
          cases h
          exact .cons hr hw (ih hrest)
  · intro h
    induction h with
    | nil => rfl
    | cons value processing _ ih =>
      rw [← PostProcessor.runAll_queryTemplate] at processing
      rw [Injections.resolveAll_of_ok value processing, ih]

/-! ### The post-processors of a registry -/

namespace Registry

def injections (r : Registry σ) : List (Injections σ) :=
  r.routes.map (·.terminal.injections) ++ r.wrappers.map (·.injections) ++
    r.channels.map (·.injections)

/-- Every value goes through the same post-processors, now and for what is registered later. -/
def PostProcesses (r : Registry σ) (processors : List (PostProcessor σ)) : Prop :=
  r.injector.processors = processors ∧ ∀ i ∈ r.injections, i.processors = processors

end Registry

def Entry.injections? : Entry σ → Option (Injections σ)
  | route p => some p.terminal.injections
  | wrapper w => some w.injections
  | channel r => some r.injections
  | rule => none

theorem Registry.mem_injections_extend {r : Registry σ} {e : Entry σ} {i : Injections σ} :
    i ∈ (r.extend [e]).injections ↔ i ∈ r.injections ∨ e.injections? = some i := by
  cases e with
  | route p =>
    simp [extend_route, injections, Entry.injections?, eq_comm, or_comm, or_left_comm]
  | wrapper w =>
    simp [extend_wrapper, injections, Entry.injections?, eq_comm, or_assoc, or_comm, or_left_comm]
  | channel c => simp [extend_channel, injections, Entry.injections?, eq_comm, or_assoc]
  | rule => simp [extend_rule, Entry.injections?]

theorem Registration.Adds.processors_eq {r : Registry σ} {a : σ} {c : Registration σ} {e : Entry σ}
    (h : c.Adds r a e) {i : Injections σ} (hi : e.injections? = some i) :
    i.processors = r.injector.processors := by
  cases h with
  | route h =>
    cases hi
    rw [h.injections]
    rfl
  | wrapper h => cases hi; rfl
  | withAlias name specifier => cases hi
  | setDefault h => cases hi
  | channel h => cases hi; rfl

theorem Registry.processors_inForce (r : Registry σ) (c : Registration σ) :
    (r.inForce [c]).injector.processors = r.injector.processors := by
  cases c <;> rfl

namespace Registry.PostProcesses

variable {processors : List (PostProcessor σ)} {s : Setup σ}

theorem after (h : s.registry.PostProcesses processors) (c : Registration σ) :
    (s.after c).registry.PostProcesses processors := by
  have hforce : (s.registry.inForce [c]).PostProcesses processors :=
    ⟨(s.registry.processors_inForce c).trans h.1, h.2⟩
  rcases s.after_cases c with ⟨-, e, he, hr⟩ | ⟨-, hr⟩
  · rw [hr]
    refine ⟨hforce.1, ?_⟩
    intro i hi
    rcases Registry.mem_injections_extend.1 hi with hi | hi
    · exact hforce.2 i hi
    · exact (he.processors_eq hi).trans h.1
  · rw [hr]
    exact hforce

theorem afterAll (h : s.registry.PostProcesses processors) (calls : List (Registration σ)) :
    (s.afterAll calls).registry.PostProcesses processors := by
  induction calls generalizing s with
  | nil => exact h
  | cons c calls ih => exact ih (h.after c)

end Registry.PostProcesses

theorem Collaborators.registry_of_build {c : Collaborators σ} {a b : σ} {r : Registry σ}
    (h : c.build a = (.ok r, b)) : r = c.registry := by
  simp only [build, bind, StateT.bind] at h
  rcases hinit : initAll c.allEngines a with ⟨e | u, b'⟩
  · rw [hinit] at h
    cases h
  · rw [hinit] at h
    cases h
    rfl

namespace Registry.PostProcesses

theorem of_build {c : Collaborators σ} {a b : σ} {r : Registry σ} (h : c.build a = (.ok r, b))
    (app : σ) (calls : List (Registration σ)) :
    ((Setup.mk r app).afterAll calls).registry.PostProcesses (.queryTemplate :: c.processors) := by
  obtain rfl := Collaborators.registry_of_build h
  have hstart : c.registry.PostProcesses (.queryTemplate :: c.processors) := ⟨rfl, by
    intro i hi
    cases hi⟩
  exact afterAll (s := ⟨c.registry, app⟩) hstart calls

theorem of_bound {r : Registry σ} {processors : List (PostProcessor σ)}
    (h : r.PostProcesses processors) {i : Injections σ}
    (hi : i ∈ r.injections ∨ ∃ specifiers, i = r.injector.bind specifiers) :
    i.processors = processors := by
  rcases hi with hi | ⟨specifiers, rfl⟩
  · exact h.2 i hi
  · exact h.1

end Registry.PostProcesses

theorem Setup.injector_of_build {c : Collaborators σ} {a b : σ} {r : Registry σ}
    (h : c.build a = (.ok r, b)) (app : σ) (calls : List (Registration σ)) :
    ((Setup.mk r app).afterAll calls).registry.injector =
      (Injector.start c.providers (.queryTemplate :: c.processors)).withAliases
        (calls.filterMap Registration.alias?) := by
  obtain rfl := Collaborators.registry_of_build h
  exact (Setup.afterAll_keeps ⟨c.registry, app⟩ calls).1

namespace Injector

/-- The ways to a value agree. By hand a specifier cannot fail, and bound for a channel it gives the
same in the same state; so it does in every exchange, unless it denotes the body of a request, which
is null outside exchanges, whatever it is to be read as. In a registry, whatever was called on it,
every connection that is resolved, for something registered or by hand, is a query template before
the post-processors of the application see it. -/
theorem injection_paths_agree (providers : List (Provider σ)) (processors : List (PostProcessor σ))
    (history : List (String × String)) :
    let i := (start providers processors).withAliases history
    (∀ specifier a, ∃ v b, i.resolveManually specifier a = (.ok v, b) ∧
      (i.bind [specifier]).resolve none a = (.ok [v], b) ∧
      ((∀ suffix, ¬ Denotes history specifier (.keyed entityKey suffix)) →
        ∀ x, (i.bind [specifier]).resolve (some x) a = (.ok [v], b)) ∧
      ∀ suffix, Denotes history specifier (.keyed entityKey suffix) → v = none ∧ b = a) ∧
    (∀ (r : ChannelRoute σ) specifiers, r.injections = i.bind specifiers → ∀ o : Opening σ,
      ∃ values b, ByHand i specifiers o.channel.app values b ∧
        r.run o = r.function values { o with channel := { o.channel with app := b } }) ∧
    (∀ (v : Injected σ) connection, v.templated ≠ some (.connection connection)) ∧
    ∀ (c : Collaborators σ) a r b, c.build a = (.ok r, b) → ∀ app calls,
      let built := ((Setup.mk r app).afterAll calls).registry
      built.injector = (start c.providers (.queryTemplate :: c.processors)).withAliases
        (calls.filterMap Registration.alias?) ∧
      (∀ bound, bound ∈ built.injections ∨ (∃ specifiers, bound = built.injector.bind specifiers) →
        ∀ x a values b, bound.resolve x a = (.ok values, b) ↔
          Templated c.processors x bound.resolvers a values b) ∧
      ∀ specifier a w b, built.resolve specifier a = (.ok w, b) ↔
        Templated c.processors none [built.injector.resolveSpec specifier] a [w] b := by
  refine ⟨?_, ?_, Injected.templated_ne_connection, ?_⟩
  · intro specifier a
    obtain ⟨v, b, hmanual, hbound⟩ := exists_resolveManually
      ((start providers processors).withAliases history) specifier a
    refine ⟨v, b, hmanual, hbound, ?_, ?_⟩
    · intro hbody x
      have hspecifier := Resolver.resolve_congr
        (resolveSpec_ne_entity providers processors hbody) (some x) none
      have hall := Injections.resolveAll_congr (List.forall_mem_singleton.2 hspecifier) processors
      rw [← hbound, withAliases_eq]
      rw [withAliases_eq] at hall
      exact congrFun hall a
    · intro suffix hbody
      rw [resolveManually_of_body providers processors hbody] at hmanual
      cases hmanual
      exact ⟨rfl, rfl⟩
  · intro r specifiers hr o
    obtain ⟨values, b, hvalues, hresolve⟩ := exists_byHand _ specifiers o.channel.app
    exact ⟨values, b, hvalues, ChannelRoute.run_of_resolve (hr ▸ hresolve)⟩
  · intro c a r b hbuild app calls
    have hprocessors := Registry.PostProcesses.of_build hbuild app calls
    refine ⟨Setup.injector_of_build hbuild app calls, ?_, ?_⟩
    · intro bound hbound x a values b
      rw [Injections.resolve, hprocessors.of_bound hbound, Templated.resolveAll_iff]
    · intro specifier a w b
      rw [Registry.resolve, resolveManually_eq_ok_iff, Injections.resolve,
        hprocessors.of_bound (.inr ⟨_, rfl⟩), Templated.resolveAll_iff]
      rfl

end Injector

end WebDispatch
