import WebDispatch.Proofs.RegistrationHistory

namespace WebDispatch

open Http

variable {σ : Type}

/-! ### A wrapper next to a route -/

namespace Registry

def addWrapper (r : Registry σ) (w : WrapperEntry σ) : Registry σ :=
  { r with wrappers := r.wrappers ++ [w] }

theorem route_addWrapper (r : Registry σ) (w : WrapperEntry σ) (method : Method) (path : String)
    (options : Options σ) (spec : HandlerSpec (RouteFunction σ)) (a : σ) :
    (r.addWrapper w).route method path options spec a =
      ((r.route method path options spec a).1.map fun r' ↦ r'.addWrapper w,
        (r.route method path options spec a).2) := by
  have hprepare : (r.addWrapper w).prepare path options = r.prepare path options := rfl
  rw [route_apply, route_apply, hprepare]
  cases r.prepare path options with
  | error e => rfl
  | ok prepared =>
    obtain ⟨pattern, config, predicate⟩ := prepared
    have hfind : (r.addWrapper w).findTemplate config path = r.findTemplate config path := rfl
    simp only [hfind]
    rcases r.findTemplate config path a with ⟨found, b⟩
    cases found with
    | error e => rfl
    | ok template =>
      have hterminal : (r.addWrapper w).terminalOf path config template spec =
        r.terminalOf path config template spec := rfl
      simp only [hterminal]
      cases r.terminalOf path config template spec <;> rfl

end Registry

namespace Setup

section

variable (s : Setup σ) (source : Option (PredicateSource σ))
  (wspec : HandlerSpec (WrapperFunction σ)) (method : Method) (path : String)
  (options : Options σ) (spec : HandlerSpec (RouteFunction σ))

def addWrapper (s : Setup σ) (w : WrapperEntry σ) : Setup σ :=
  { s with registry := s.registry.addWrapper w }

theorem perform_wrapper :
    (Registration.wrapper source wspec).perform s =
      match s.registry.compilePredicate source with
      | .ok predicate =>
        (.ok (), s.addWrapper
          ⟨predicate, s.registry.injector.bind wspec.specifiers, wspec.function⟩)
      | .error e => (.error e, s) := by
  rw [Registration.perform_eq_apply, Registration.apply, Registry.wrapper]
  cases s.registry.compilePredicate source <;> rfl

theorem perform_route_addWrapper (w : WrapperEntry σ) :
    (Registration.route method path options spec).perform (s.addWrapper w) =
      (((Registration.route method path options spec).perform s).1,
        ((Registration.route method path options spec).perform s).2.addWrapper w) := by
  rw [Registration.perform_eq_apply, Registration.perform_eq_apply, Registration.apply,
    Registration.apply, addWrapper, Registry.route_addWrapper]
  rcases s.registry.route method path options spec s.app with ⟨result, a⟩
  cases result <;> rfl

theorem perform_wrapper_after_route :
    (Registration.wrapper source wspec).perform (s.after (.route method path options spec)) =
      match s.registry.compilePredicate source with
      | .ok predicate =>
        (.ok (), (s.after (.route method path options spec)).addWrapper
          ⟨predicate, s.registry.injector.bind wspec.specifiers, wspec.function⟩)
      | .error e => (.error e, s.after (.route method path options spec)) := by
  rw [perform_wrapper]
  rcases s.after_cases (.route method path options spec) with ⟨-, e, -, hr⟩ | ⟨-, hr⟩
  · rw [hr]
    rfl
  · rw [hr]
    rfl

theorem wrapper_route_commute :
    let w : Registration σ := .wrapper source wspec
    let c : Registration σ := .route method path options spec
    (s.after w).after c = (s.after c).after w ∧
      (w.perform (s.after c)).1 = (w.perform s).1 ∧
        (c.perform (s.after w)).1 = (c.perform s).1 := by
  intro w c
  have hlast : w.perform (s.after c) = _ :=
    s.perform_wrapper_after_route source wspec method path options spec
  have hfirst : w.perform s = _ := s.perform_wrapper source wspec
  rw [after, after, after, hlast, hfirst]
  -- Both orders compile the predicate with the same parser; if that fails, only the route is left.
  cases s.registry.compilePredicate source with
  | error e => exact ⟨rfl, rfl, rfl⟩
  | ok predicate =>
    have hroute := s.perform_route_addWrapper method path options spec
      ⟨predicate, s.registry.injector.bind wspec.specifiers, wspec.function⟩
    have hafter := congrArg Prod.snd hroute
    have hends := congrArg Prod.fst hroute
    exact ⟨hafter, rfl, hends⟩

end

end Setup

/-! ### Calls that add nothing -/

def Registration.isRule : Registration σ → Bool
  | .withAlias .. => true
  | .setDefault .. => true
  | _ => false

theorem Registration.Adds.eq_rule {r : Registry σ} {a : σ} {c : Registration σ} {e : Entry σ}
    (h : c.Adds r a e) (hc : c.isRule = true) : e = .rule := by
  cases h with
  | route h => cases hc
  | wrapper h => cases hc
  | channel h => cases hc
  | withAlias name specifier => rfl
  | setDefault h => rfl

namespace Setup

theorem registry_afterAll_rules (s : Setup σ) {rules : List (Registration σ)}
    (h : ∀ c ∈ rules, c.isRule = true) :
    (s.afterAll rules).registry = s.registry.inForce rules := by
  induction rules generalizing s with
  | nil => rfl
  | cons c rules ih =>
    have hstep : (s.after c).registry = s.registry.inForce [c] := by
      rcases s.after_cases c with ⟨-, e, he, hr⟩ | ⟨-, hr⟩
      · rw [hr, he.eq_rule (h c List.mem_cons_self), Registry.extend_rule]
      · exact hr
    have hrest := ih (s.after c) fun c' hc' ↦ h c' (List.mem_cons_of_mem c hc')
    rw [hstep, ← Registry.inForce_append] at hrest
    exact hrest

/-! ### Histories -/

theorem outcomes_append (s : Setup σ) (calls later : List (Registration σ)) :
    s.outcomes (calls ++ later) = s.outcomes calls ++ (s.afterAll calls).outcomes later := by
  induction calls generalizing s with
  | nil => rfl
  | cons c calls ih =>
    rw [List.cons_append, outcomes, ih, outcomes, List.cons_append]
    rfl

theorem successes_of_outcomes {s : Setup σ} {calls : List (Registration σ)}
    (h : ∀ o ∈ s.outcomes calls, o = .ok ()) : s.successes calls = moments [] calls := by
  induction calls using List.reverseRecOn with
  | nil => rfl
  | append_singleton calls c ih =>
    rw [outcomes_append] at h
    have hc : (s.afterAll calls).accepts c = true :=
      decide_eq_true (h _ (List.mem_append_right _ List.mem_cons_self))
    rw [successes_concat, if_pos hc, ih fun o ho ↦ h o (List.mem_append_left _ ho), moments_append]
    rfl

theorem swap_afterAll (s : Setup σ) (source : Option (PredicateSource σ))
    (wspec : HandlerSpec (WrapperFunction σ)) (method : Method) (path : String)
    (options : Options σ) (spec : HandlerSpec (RouteFunction σ))
    (past later : List (Registration σ)) :
    let w : Registration σ := .wrapper source wspec
    let c : Registration σ := .route method path options spec
    s.afterAll (past ++ w :: c :: later) = s.afterAll (past ++ c :: w :: later) ∧
      (s.outcomes (past ++ w :: c :: later)).Perm (s.outcomes (past ++ c :: w :: later)) := by
  intro w c
  obtain ⟨hafter, hw, hc⟩ :=
    (s.afterAll past).wrapper_route_commute source wspec method path options spec
  constructor
  · rw [afterAll_append, afterAll_append]
    exact congrArg (fun t ↦ Setup.afterAll t later) hafter
  · rw [outcomes_append, outcomes_append]
    refine .append_left _ ?_
    simp only [outcomes]
    rw [hafter, hw, hc]
    exact .swap _ _ _

/-- The dispatcher, by the history of its registry. The calls that succeeded made its entries in
their order, each under the defaults and the aliases of its own moment, and all the wrappers stand
around each route; a call succeeds when at its moment there is an entry for it. -/
theorem dispatcher_afterAll (s : Setup σ) (calls : List (Registration σ)) :
    (∃ entries,
      List.Forall₂ (fun m e ↦ m.2.Adds (s.registry.inForce m.1) (s.afterAll m.1).app e)
        (s.successes calls) entries ∧
      (s.afterAll calls).registry.dispatcher =
        { settings := s.registry.settings
          routes := (s.registry.routes ++ entries.filterMap Entry.route?).map fun p ↦
            { method := p.method
              pattern := p.pattern
              predicate := p.predicate
              handler := composeChain p.terminal.handler
                (s.registry.wrappers ++ entries.filterMap Entry.wrapper?)
                s.registry.handlerWrappers }
          channels := s.registry.channels ++ entries.filterMap Entry.channel?
          serializer := s.registry.serializer
          engines := s.registry.engines }) ∧
    (∀ past c, (s.afterAll past).accepts c = true ↔
      ∃ e, c.Adds (s.registry.inForce past) (s.afterAll past).app e) ∧
    ((∀ o ∈ s.outcomes calls, o = .ok ()) → s.successes calls = moments [] calls) ∧
    (∀ source wspec method path options spec past later,
      let w : Registration σ := .wrapper source wspec
      let c : Registration σ := .route method path options spec
      calls = past ++ w :: c :: later →
        s.afterAll calls = s.afterAll (past ++ c :: w :: later) ∧
        (s.outcomes calls).Perm (s.outcomes (past ++ c :: w :: later))) ∧
    (∀ later, (∀ c ∈ later, c.isRule = true) →
      (s.afterAll (calls ++ later)).registry.dispatcher = (s.afterAll calls).registry.dispatcher) ∧
    ∀ later,
      (s.afterAll calls).registry.routes <+: (s.afterAll (calls ++ later)).registry.routes ∧
      (s.afterAll calls).registry.wrappers <+: (s.afterAll (calls ++ later)).registry.wrappers ∧
      (s.afterAll calls).registry.channels <+: (s.afterAll (calls ++ later)).registry.channels := by
  refine ⟨?_, s.accepts_afterAll_iff, successes_of_outcomes, ?_, ?_, ?_⟩
  · obtain ⟨entries, hadds, hreg⟩ := s.registry_afterAll calls
    refine ⟨entries, hadds, ?_⟩
    rw [hreg]
    rfl
  · rintro source wspec method path options spec past later w c rfl
    exact s.swap_afterAll source wspec method path options spec past later
  · intro later h
    rw [afterAll_append, registry_afterAll_rules _ h]
    rfl
  · intro later
    obtain ⟨entries, -, hreg⟩ := (s.afterAll calls).registry_afterAll later
    rw [afterAll_append, hreg]
    exact ⟨⟨_, rfl⟩, ⟨_, rfl⟩, ⟨_, rfl⟩⟩

end Setup

end WebDispatch
