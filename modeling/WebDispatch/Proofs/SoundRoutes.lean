import WebDispatch.Proofs.Authorization
import WebDispatch.Proofs.RegistrationHistory
import WebDispatch.Proofs.Transactions

namespace WebDispatch

open Http

variable {σ : Type}

/-! ### Terminals with other code in some places -/

namespace Terminal

/-- Authorization with other code for roles that nobody guards. -/
def authorizeOr (t : Terminal σ) (unguarded : Run (Scene σ) Bool) : Run (Scene σ) Bool := do
  if t.roles.isOpen then return true
  match t.authenticator with
  | none => unguarded
  | some authenticator =>
    match ← authenticator with
    | .refused =>
      Run.modifyExchange Exchange.finish
      return false
    | .authenticated principal =>
      let (isIn, x) := judge t.roles principal (← Run.exchange)
      Run.modifyExchange fun _ ↦ x
      return isIn

def invokeOr (t : Terminal σ) (outside inside : Run (Scene σ) Answer) : Run (Scene σ) Answer :=
  match t.transactions with
  | some (manager, options) => manager.within options inside
  | none => outside

def handlerOr (t : Terminal σ) (unguarded : Run (Scene σ) Bool)
    (outside inside : Run (Scene σ) Answer) : Run (Scene σ) Unit := do
  if ← t.authorizeOr unguarded then
    Run.modifyExchange (putHeaders t.headers)
    t.respond (← t.invokeOr outside inside)

def deny : Run (Scene σ) Bool := do
  Run.modifyExchange (endWith 403)
  return false

theorem authorizeOr_deny (t : Terminal σ) : t.authorizeOr deny = t.authorize := rfl

theorem invokeOr_self (t : Terminal σ) : t.invokeOr t.invoke t.invoke = t.invokeInTransaction := rfl

theorem handlerOr_self (t : Terminal σ) : t.handlerOr deny t.invoke t.invoke = t.handler := by
  rw [handlerOr, authorizeOr_deny, invokeOr_self]
  rfl

theorem authorizeOr_congr {t : Terminal σ}
    (h : t.roles.isOpen = false → t.authenticator.isSome = true)
    (unguarded unguarded' : Run (Scene σ) Bool) :
    t.authorizeOr unguarded = t.authorizeOr unguarded' := by
  rw [authorizeOr, authorizeOr]
  cases hopen : t.roles.isOpen with
  | true => rfl
  | false =>
    cases hauth : t.authenticator with
    | some authenticator => rfl
    | none =>
      rw [hauth] at h
      cases h hopen

end Terminal

def TransactionManager.Begins (m : TransactionManager σ) (options : TransactionOptions) (a : σ) :
    Prop :=
  ∃ t b, m.start options b = (.ok t, a)

theorem TransactionManager.within_congr {α : Type} {m : TransactionManager σ}
    {options : TransactionOptions} {body body' : Run (Scene σ) α}
    (h : ∀ s : Scene σ, m.Begins options s.world.app → body s = body' s) :
    m.within options body = m.within options body' := by
  funext s
  rcases hstart : m.start options s.world.app with ⟨result, a⟩
  cases result with
  | error e => rw [within_of_not_begun hstart, within_of_not_begun hstart]
  | ok t =>
    have hbegins : m.Begins options (s.withApp a).world.app := ⟨t, s.world.app, hstart⟩
    rw [within_of_begun hstart, within_of_begun hstart, h _ hbegins]

/-! ### Sound routes -/

theorem Registry.headerPairs_eq_ok {hs : List (String × String)}
    {pairs : List (HeaderName × HeaderValue)} (h : headerPairs hs = .ok pairs) :
    List.Forall₂ (fun own pair ↦ headerPair own.1 own.2 = .ok pair) hs pairs := by
  induction hs generalizing pairs with
  | nil => cases h; exact .nil
  | cons own hs ih =>
    rw [headerPairs] at h
    cases hpair : headerPair own.1 own.2 with
    | error e => rw [hpair] at h; cases h
    | ok pair =>
      rw [hpair] at h
      cases hrest : headerPairs hs with
      | error e => rw [hrest] at h; cases h
      | ok rest =>
        rw [hrest] at h
        cases h
        exact .cons hpair (ih hrest)

namespace Collaborators

/-- A route that has what its configuration asks for, from the collaborators, when templates are
looked up in a state of the application. -/
structure Sound (c : Collaborators σ) (a : σ) (config : HandlerConfig σ) (p : PendingRoute σ) :
    Prop where
  roles : p.terminal.roles = .ofList config.rolesAllowed
  guarded : config.rolesAllowed ≠ [] →
    ∃ authenticator, c.authenticator = some authenticator ∧
      p.terminal.authenticator = some authenticator
  transactional : config.transactional = true ↔
    ∃ manager, c.transactionManager = some manager ∧
      p.terminal.transactions = some (manager, c.transactionOptions)
  plain : config.transactional = false ↔ p.terminal.transactions = none
  templated : config.template.isSome = p.terminal.template.isSome
  template : ∀ t, p.terminal.template = some t →
    ∃ name e, config.template = some name ∧
      c.allEngines.find? (fun e ↦ e.name == config.templateType) = some e ∧
        (e.getTemplate name a).1 = .ok t
  gated : config.predicate.isSome = p.predicate.isSome
  predicate : ∀ f, p.predicate = some f →
    ∃ source, config.predicate = some source ∧ source.compile c.predicateParser = .ok f
  headers : ∃ pairs,
    List.Forall₂ (fun own pair ↦ headerPair own.1 own.2 = .ok pair) config.headers pairs ∧
      Registry.typedHeaders config.contentTypeExplicit p.terminal.template.isSome pairs =
        (p.terminal.headers, p.terminal.defaultContentType)

end Collaborators

namespace Registry

variable {r : Registry σ} {config : HandlerConfig σ} {path : String}

theorem findTemplate_eq_ok {a : σ} {template : Option (Template σ)}
    (h : (r.findTemplate config path a).1 = .ok template) :
    config.template.isSome = template.isSome ∧ ∀ t, template = some t →
      ∃ name e, config.template = some name ∧
        r.engines.find? (fun e ↦ e.name == config.templateType) = some e ∧
          (e.getTemplate name a).1 = .ok t := by
  rw [findTemplate] at h
  cases hname : config.template with
  | none =>
    rw [hname] at h
    cases h
    exact ⟨rfl, fun t ht ↦ by cases ht⟩
  | some name =>
    rw [hname] at h
    cases hfind : r.engines.find? fun e ↦ e.name == config.templateType with
    | none => simp only [hfind] at h; cases h
    | some e =>
      simp only [hfind] at h
      have hget : (e.getTemplate name a).1.map some = .ok template := h
      cases hresult : (e.getTemplate name a).1 with
      | error error => rw [hresult] at hget; cases hget
      | ok t =>
        rw [hresult] at hget
        cases hget
        refine ⟨rfl, fun t' ht' ↦ ⟨name, e, rfl, rfl, ?_⟩⟩
        rw [hresult, Option.some.inj ht']

theorem compilePredicate_eq_ok {source : Option (PredicateSource σ)}
    {predicate : Option (Predicate σ)} (h : r.compilePredicate source = .ok predicate) :
    source.isSome = predicate.isSome ∧ ∀ f, predicate = some f →
      ∃ p, source = some p ∧ p.compile r.predicateParser = .ok f := by
  cases source with
  | none =>
    cases h
    exact ⟨rfl, fun f hf ↦ by cases hf⟩
  | some p =>
    have hcompile : (p.compile r.predicateParser).map some = .ok predicate := h
    cases hresult : p.compile r.predicateParser with
    | error e => rw [hresult] at hcompile; cases hcompile
    | ok f =>
      rw [hresult] at hcompile
      cases hcompile
      refine ⟨rfl, fun f' hf' ↦ ⟨p, rfl, ?_⟩⟩
      rw [hresult, Option.some.inj hf']

theorem transactionsOf_eq_ok {transactional : Bool}
    {transactions : Option (TransactionManager σ × TransactionOptions)}
    (h : r.transactionsOf transactional path = .ok transactions) :
    (transactional = true ↔ ∃ manager, r.transactionManager = some manager ∧
      transactions = some (manager, r.transactionOptions)) ∧
    (transactional = false ↔ transactions = none) := by
  cases transactional with
  | false =>
    cases h
    simp
  | true =>
    cases hmanager : r.transactionManager with
    | none => simp [transactionsOf, hmanager] at h
    | some manager =>
      simp only [transactionsOf, hmanager] at h
      cases h
      simp

theorem Makes.sound {c : Collaborators σ} {past : List (Registration σ)} {a : σ}
    {method : Method} {options : Options σ} {spec : HandlerSpec (RouteFunction σ)}
    {p : PendingRoute σ}
    (h : (c.registry.inForce past).Makes a method path options spec config p) :
    c.Sound a config p := by
  obtain ⟨htransactional, hplain⟩ := transactionsOf_eq_ok h.transactions
  obtain ⟨htemplated, htemplate⟩ := findTemplate_eq_ok h.template
  obtain ⟨hgated, hpredicate⟩ := compilePredicate_eq_ok h.predicate
  obtain ⟨pairs, hpairs, htyped⟩ := h.headers
  refine ⟨h.roles, fun hne ↦ ?_, htransactional, hplain, htemplated, htemplate, hgated, hpredicate,
    pairs, headerPairs_eq_ok hpairs, htyped⟩
  have hopen : p.terminal.roles.isOpen = false := by
    rw [h.roles, ← Bool.not_eq_true, Roles.isOpen_ofList_iff]
    exact hne
  obtain ⟨authenticator, hauth⟩ := Option.isSome_iff_exists.1 (h.guarded hopen)
  exact ⟨authenticator, hauth, h.authenticator.trans hauth⟩

end Registry

def Collaborators.HasBegun (c : Collaborators σ) (s : Scene σ) : Prop :=
  ∃ manager, c.transactionManager = some manager ∧
    manager.Begins c.transactionOptions s.world.app

/-- Nothing that is put in the places where a sound route does not come makes a difference. -/
theorem Collaborators.Sound.handlerOr_eq {c : Collaborators σ} {a : σ} {config : HandlerConfig σ}
    {p : PendingRoute σ} (h : c.Sound a config p) (unguarded : Run (Scene σ) Bool)
    {outside inside : Run (Scene σ) Answer}
    (hout : config.transactional = false → outside = p.terminal.invoke)
    (hin : ∀ s, c.HasBegun s → inside s = p.terminal.invoke s) :
    p.terminal.handlerOr unguarded outside inside = p.terminal.handler := by
  have hguarded : p.terminal.roles.isOpen = false → p.terminal.authenticator.isSome = true := by
    intro hopen
    have hne : config.rolesAllowed ≠ [] := by
      rw [h.roles, ← Bool.not_eq_true] at hopen
      exact fun hnil ↦ hopen ((Roles.isOpen_ofList_iff _).2 hnil)
    obtain ⟨authenticator, -, hauth⟩ := h.guarded hne
    rw [hauth]
    rfl
  -- A plain route has no use for `inside`, and a transactional one none for `outside`.
  have hinvoke : p.terminal.invokeOr outside inside =
      p.terminal.invokeOr p.terminal.invoke p.terminal.invoke := by
    cases htx : config.transactional with
    | false => rw [Terminal.invokeOr, Terminal.invokeOr, h.plain.1 htx, hout htx]
    | true =>
      obtain ⟨manager, hmanager, hterminal⟩ := h.transactional.1 htx
      rw [Terminal.invokeOr, Terminal.invokeOr, hterminal]
      exact TransactionManager.within_congr fun s hs ↦ hin s ⟨manager, hmanager, hs⟩
  rw [← Terminal.handlerOr_self, Terminal.handlerOr, Terminal.handlerOr, hinvoke,
    Terminal.authorizeOr_congr hguarded unguarded Terminal.deny]

/-! ### Every route of a registry -/

section

variable {α β : Type} {R : α → β → Prop}

theorem exists_of_mem_forall₂ {as : List α} {bs : List β} (h : List.Forall₂ R as bs) {b : β}
    (hb : b ∈ bs) : ∃ a ∈ as, R a b := by
  induction h with
  | nil => cases hb
  | cons hr _ ih =>
    rcases List.mem_cons.1 hb with rfl | hb
    · exact ⟨_, List.mem_cons_self, hr⟩
    · obtain ⟨a, ha, hab⟩ := ih hb
      exact ⟨a, List.mem_cons_of_mem _ ha, hab⟩

theorem exists_forall₂ {bs : List β} (h : ∀ b ∈ bs, ∃ a, R a b) : ∃ as, List.Forall₂ R as bs := by
  induction bs with
  | nil => exact ⟨[], .nil⟩
  | cons b bs ih =>
    obtain ⟨a, ha⟩ := h b List.mem_cons_self
    obtain ⟨as, has⟩ := ih fun b' hb' ↦ h b' (List.mem_cons_of_mem b hb')
    exact ⟨a :: as, .cons ha has⟩

theorem zipWith_of_forall₂ {γ : Type} {f : α → β → γ} {g : β → γ} {as : List α} {bs : List β}
    (h : List.Forall₂ R as bs) (hfg : ∀ a b, R a b → f a b = g b) :
    List.zipWith f as bs = bs.map g := by
  induction h with
  | nil => rfl
  | cons hr _ ih => rw [List.zipWith_cons_cons, List.map_cons, hfg _ _ hr, ih]

end

theorem Setup.mem_routes_afterAll {s : Setup σ} {calls : List (Registration σ)}
    {p : PendingRoute σ} (h : p ∈ (s.afterAll calls).registry.routes) :
    p ∈ s.registry.routes ∨ ∃ past method path options spec later config,
      calls = past ++ .route method path options spec :: later ∧
      (s.registry.inForce past).Makes (s.afterAll past).app method path options spec config p := by
  obtain ⟨entries, hadds, hreg⟩ := s.registry_afterAll calls
  rw [hreg] at h
  rcases List.mem_append.1 h with h | h
  · exact .inl h
  · obtain ⟨e, he, hp⟩ := List.mem_filterMap.1 h
    obtain ⟨⟨past, c⟩, hm, hc⟩ := exists_of_mem_forall₂ hadds he
    obtain ⟨later, hl⟩ := exists_of_mem_moments (List.mem_filter.1 hm).1
    cases hc with
    | route hmakes =>
      obtain rfl := Option.some.inj hp
      exact .inr ⟨past, _, _, _, _, later, _, hl, hmakes⟩
    | wrapper h => cases hp
    | withAlias name specifier => cases hp
    | setDefault h => cases hp
    | channel h => cases hp

/-- Whatever is called on a registry, each of its routes is sound under the configuration that its
own options and the defaults of its moment gave it. So the dispatcher is the same with any other
code in three places: where roles have no guard, where the function of a transactional route would
run outside a transaction, and where a function would run inside one that was not begun before. -/
theorem Collaborators.served_routes_sound (c : Collaborators σ) (a : σ)
    (calls : List (Registration σ)) :
    let s : Setup σ := ⟨c.registry, a⟩
    let r := (s.afterAll calls).registry
    ∃ configs : List (HandlerConfig σ),
      List.Forall₂ (fun config p ↦ ∃ past method path options spec later,
          calls = past ++ .route method path options spec :: later ∧
          HandlerConfig.validate options (c.registry.inForce past).defaults = .ok config ∧
          c.Sound (s.afterAll past).app config p) configs r.routes ∧
      ∀ (unguarded : Run (Scene σ) Bool)
        (outside inside : HandlerConfig σ → PendingRoute σ → Run (Scene σ) Answer),
        (∀ config p, config.transactional = false → outside config p = p.terminal.invoke) →
        (∀ config p s, c.HasBegun s → inside config p s = p.terminal.invoke s) →
        r.dispatcher =
          { r.dispatcher with
            routes := List.zipWith (fun config p ↦
              { method := p.method
                pattern := p.pattern
                predicate := p.predicate
                handler := composeChain
                  (p.terminal.handlerOr unguarded (outside config p) (inside config p))
                  r.wrappers r.handlerWrappers }) configs r.routes } := by
  intro s r
  have hsound : ∀ p ∈ r.routes, ∃ config, ∃ past method path options spec later,
      calls = past ++ .route method path options spec :: later ∧
      HandlerConfig.validate options (c.registry.inForce past).defaults = .ok config ∧
      c.Sound (s.afterAll past).app config p := by
    intro p hp
    rcases Setup.mem_routes_afterAll hp with
      hp | ⟨past, method, path, options, spec, later, config, hcalls, hmakes⟩
    · cases hp
    · exact ⟨config, past, method, path, options, spec, later, hcalls, hmakes.validated,
        hmakes.sound⟩
  obtain ⟨configs, hconfigs⟩ := exists_forall₂ hsound
  refine ⟨configs, hconfigs, fun unguarded outside inside hout hin ↦ ?_⟩
  rw [zipWith_of_forall₂ hconfigs]
  · rfl
  · rintro config p ⟨past, method, path, options, spec, later, -, -, hp⟩
    rw [hp.handlerOr_eq unguarded (hout config p) (hin config p)]

-- A default makes the first route transactional; the second asks for roles that nobody guards.
example :
    let c : Collaborators Unit :=
      { settings := { workerThreads := 1 }
        templates := { path := "" }
        transactionManager := some ⟨fun _ ↦ pure (.error .multipleResults)⟩ }
    let spec : HandlerSpec (RouteFunction Unit) := { function := fun _ ↦ pure .empty }
    let s := (Setup.mk c.registry ()).afterAll
      [.setDefault "transactional" (.bool true), .route .get "/" {} spec,
        .route .get "/" (Options.empty.rolesAllowed ["admin"]) spec]
    s.registry.routes.map (·.terminal.transactions.isSome) = [true] := by
  decide +kernel

end WebDispatch
