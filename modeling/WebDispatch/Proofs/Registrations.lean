import WebDispatch.Registration

namespace WebDispatch

open Http

variable {σ : Type}

theorem Run.ofExcept_bind {s α β : Type} (e : Except Error α) (f : α → Run s β) (x : s) :
    (Run.ofExcept e >>= f) x =
      match e with
      | .ok a => f a x
      | .error e => (.error e, x) := by
  cases e <;> rfl

/-! ### In place and as a function -/

theorem Registry.route_apply (r : Registry σ) (method : Method) (path : String)
    (options : Options σ) (spec : HandlerSpec (RouteFunction σ)) (a : σ) :
    r.route method path options spec a =
      match r.prepare path options with
      | .error e => (.error e, a)
      | .ok (pattern, config, predicate) =>
        match r.findTemplate config path a with
        | (.error e, b) => (.error e, b)
        | (.ok template, b) => ((r.terminalOf path config template spec).map fun terminal ↦
            { r with routes := r.routes ++ [⟨method, pattern, predicate, terminal⟩] }, b) := by
  rw [route]
  cases r.prepare path options with
  | error e => rfl
  | ok prepared =>
    simp only [bind, StateT.bind]
    rcases r.findTemplate prepared.2.1 path a with ⟨found, b⟩
    cases found <;> rfl

namespace Registration

def apply (r : Registry σ) : Registration σ → StateM σ (Except Error (Registry σ))
  | route method path options spec => r.route method path options spec
  | wrapper source spec => pure (r.wrapper source spec)
  | withAlias name specifier => pure (.ok (r.withAlias name specifier))
  | setDefault name value => pure (r.setDefault name value)
  | channel path spec => pure (r.channel path spec)

theorem perform_eq_apply (c : Registration σ) (s : Setup σ) :
    c.perform s =
      match c.apply s.registry s.app with
      | (.ok r, a) => (.ok (), ⟨r, a⟩)
      | (.error e, a) => (.error e, ⟨s.registry, a⟩) := by
  obtain ⟨r, a⟩ := s
  cases c with
  | route method path options spec =>
    have hperform : (route method path options spec).perform ⟨r, a⟩ =
        (Run.ofExcept (r.prepare path options) >>= fun prepared ↦
          Run.ofApp (r.findTemplate prepared.2.1 path) >>= fun found ↦
          Run.ofExcept found >>= fun template ↦
          Run.ofExcept (r.terminalOf path prepared.2.1 template spec) >>= fun terminal ↦
          Setup.edit fun r ↦ { r with
            routes := r.routes ++ [⟨method, prepared.1, prepared.2.2, terminal⟩] }) ⟨r, a⟩ := rfl
    rw [hperform, Run.ofExcept_bind, apply, Registry.route_apply]
    cases r.prepare path options with
    | error e => rfl
    | ok prepared =>
      obtain ⟨pattern, config, predicate⟩ := prepared
      simp only [Run.ofApp, Run.ofState, Holds.lift, Holds.app, Holds.setApp, bind, Run.bind]
      rcases r.findTemplate config path a with ⟨found, b⟩
      cases found with
      | error e => rfl
      | ok template =>
        simp only [Run.ofExcept, Run.ofOutcome, Outcome.ofExcept]
        cases r.terminalOf path config template spec <;> rfl
  | wrapper source spec =>
    simp only [apply, Registry.wrapper, perform, Run.gets, Run.bind_apply, Run.ofExcept,
      Run.ofOutcome]
    cases r.compilePredicate source <;> rfl
  | withAlias name specifier => rfl
  | setDefault name value =>
    simp only [perform, apply, Registry.setDefault, Defaults.set, Run.ofExcept_bind]
    cases OptionKey.parse name with
    | error e => rfl
    | ok key =>
      cases h : key.check value with
      | error e => simp [h, bind, Except.bind]; rfl
      | ok u => simp [h, bind, Except.bind]; rfl
  | channel path spec =>
    simp only [perform, apply, Registry.channel, Run.gets, Run.bind_apply, Run.ofExcept,
      Run.ofOutcome]
    cases PathPattern.ofText path <;> rfl

end Registration

namespace Setup

variable {s : Setup σ} {c : Registration σ}

theorem perform_of_apply_ok {r : Registry σ} {a : σ} (h : c.apply s.registry s.app = (.ok r, a)) :
    c.perform s = (.ok (), ⟨r, a⟩) := by
  rw [c.perform_eq_apply, h]

theorem perform_of_apply_error {e : Error} {a : σ}
    (h : c.apply s.registry s.app = (.error e, a)) :
    c.perform s = (.error e, ⟨s.registry, a⟩) := by
  rw [c.perform_eq_apply, h]

theorem accepts_iff : s.accepts c = true ↔ ∃ r a, c.apply s.registry s.app = (.ok r, a) := by
  rw [accepts, decide_eq_true_iff]
  rcases h : c.apply s.registry s.app with ⟨result, a⟩
  cases result with
  | error e =>
    rw [perform_of_apply_error h]
    constructor
    · intro he
      cases he
    · rintro ⟨r, b, hr⟩
      cases hr
  | ok r =>
    rw [perform_of_apply_ok h]
    exact ⟨fun _ ↦ ⟨r, a, rfl⟩, fun _ ↦ rfl⟩

end Setup

/-! ### The route that a call makes -/

namespace Registry

/-- The route that a call adds to a registry, given its configuration and the state of the
application in which its template is looked up. -/
structure Makes (r : Registry σ) (a : σ) (method : Method) (path : String) (options : Options σ)
    (spec : HandlerSpec (RouteFunction σ)) (config : HandlerConfig σ) (p : PendingRoute σ) :
    Prop where
  method : p.method = method
  pattern : PathPattern.ofText path = .ok p.pattern
  validated : HandlerConfig.validate options r.defaults = .ok config
  predicate : r.compilePredicate config.predicate = .ok p.predicate
  template : (r.findTemplate config path a).1 = .ok p.terminal.template
  headers : ∃ pairs, headerPairs config.headers = .ok pairs ∧
    typedHeaders config.contentTypeExplicit p.terminal.template.isSome pairs =
      (p.terminal.headers, p.terminal.defaultContentType)
  roles : p.terminal.roles = .ofList config.rolesAllowed
  guarded : p.terminal.roles.isOpen = false → r.authenticator.isSome = true
  authenticator : p.terminal.authenticator = r.authenticator
  transactions : r.transactionsOf config.transactional path = .ok p.terminal.transactions
  function : p.terminal.function = spec.function
  injections : p.terminal.injections = r.injector.bind spec.specifiers
  serializer : p.terminal.serializer = r.serializer

variable {r : Registry σ} {method : Method} {path : String} {options : Options σ}
  {spec : HandlerSpec (RouteFunction σ)}

theorem prepare_eq_ok_iff {pattern : PathPattern} {config : HandlerConfig σ}
    {predicate : Option (Predicate σ)} :
    r.prepare path options = .ok (pattern, config, predicate) ↔
      PathPattern.ofText path = .ok pattern ∧
        HandlerConfig.validate options r.defaults = .ok config ∧
          r.compilePredicate config.predicate = .ok predicate := by
  constructor
  · intro h
    rw [prepare] at h
    cases hpattern : PathPattern.ofText path with
    | error e => rw [hpattern] at h; cases h
    | ok pattern' =>
      cases hconfig : HandlerConfig.validate options r.defaults with
      | error e => rw [hpattern, hconfig] at h; cases h
      | ok config' =>
        rw [hpattern, hconfig] at h
        cases hpredicate : r.compilePredicate config'.predicate with
        | error e => simp [hpredicate, bind, Except.bind] at h
        | ok predicate' =>
          simp only [hpredicate, bind, Except.bind] at h
          cases h
          exact ⟨rfl, rfl, hpredicate⟩
  · rintro ⟨hpattern, hconfig, hpredicate⟩
    simp only [prepare, hpattern, hconfig, hpredicate, bind, Except.bind]
    rfl

def terminalWith (r : Registry σ) (config : HandlerConfig σ) (template : Option (Template σ))
    (spec : HandlerSpec (RouteFunction σ)) (pairs : List (HeaderName × HeaderValue))
    (transactions : Option (TransactionManager σ × TransactionOptions)) : Terminal σ where
  function := spec.function
  injections := r.injector.bind spec.specifiers
  template
  headers := (typedHeaders config.contentTypeExplicit template.isSome pairs).1
  defaultContentType := (typedHeaders config.contentTypeExplicit template.isSome pairs).2
  roles := .ofList config.rolesAllowed
  authenticator := r.authenticator
  transactions
  serializer := r.serializer

theorem terminalOf_apply (r : Registry σ) (path : String) (config : HandlerConfig σ)
    (template : Option (Template σ)) (spec : HandlerSpec (RouteFunction σ)) :
    r.terminalOf path config template spec =
      match headerPairs config.headers with
      | .error e => .error e
      | .ok pairs =>
        if !(Roles.ofList config.rolesAllowed).isOpen && r.authenticator.isNone then
          .error (.missingCollaborator "authenticator" path)
        else (r.transactionsOf config.transactional path).map
          (r.terminalWith config template spec pairs) := by
  rw [terminalOf]
  cases headerPairs config.headers with
  | error e => rfl
  | ok pairs =>
    by_cases hguard : (!(Roles.ofList config.rolesAllowed).isOpen && r.authenticator.isNone) = true
    · simp only [hguard, if_true]
      rfl
    · simp only [hguard]
      cases r.transactionsOf config.transactional path <;> rfl

/-- A terminal has passed the checks of the headers, of the guard and of the transactions. -/
theorem terminalOf_eq_ok_iff {config : HandlerConfig σ} {template : Option (Template σ)}
    {t : Terminal σ} :
    r.terminalOf path config template spec = .ok t ↔ ∃ pairs transactions,
      headerPairs config.headers = .ok pairs ∧
      ((Roles.ofList config.rolesAllowed).isOpen = false → r.authenticator.isSome = true) ∧
      r.transactionsOf config.transactional path = .ok transactions ∧
      r.terminalWith config template spec pairs transactions = t := by
  rw [terminalOf_apply]
  cases hpairs : headerPairs config.headers with
  | error e => simp
  | ok pairs =>
    have hguard : (!(Roles.ofList config.rolesAllowed).isOpen && r.authenticator.isNone) = true ↔
        ¬ ((Roles.ofList config.rolesAllowed).isOpen = false →
          r.authenticator.isSome = true) := by
      cases (Roles.ofList config.rolesAllowed).isOpen <;> cases r.authenticator <;> simp
    simp only [hguard]
    split
    · rename_i hn
      simp [hn]
    · rename_i hok
      cases htx : r.transactionsOf config.transactional path with
      | error e => simp [Except.map]
      | ok transactions =>
        constructor
        · intro h
          exact ⟨pairs, transactions, rfl, Classical.not_not.1 hok, rfl, Except.ok.inj h⟩
        · rintro ⟨pairs', transactions', h, -, h', rfl⟩
          cases h
          cases h'
          rfl

theorem Makes.terminalOf_eq {a : σ} {config : HandlerConfig σ} {p : PendingRoute σ}
    (h : r.Makes a method path options spec config p) :
    r.terminalOf path config p.terminal.template spec = .ok p.terminal := by
  obtain ⟨pairs, hpairs, htyped⟩ := h.headers
  refine terminalOf_eq_ok_iff.2 ⟨pairs, _, hpairs, ?_, h.transactions, ?_⟩
  · rw [← h.roles]
    exact h.guarded
  · rw [terminalWith, htyped, ← h.function, ← h.injections, ← h.roles, ← h.authenticator,
      ← h.serializer]

theorem makes_of_route {a b : σ} {r' : Registry σ}
    (h : r.route method path options spec a = (.ok r', b)) :
    ∃ config p, r.Makes a method path options spec config p ∧
      r' = { r with routes := r.routes ++ [p] } := by
  rw [route_apply] at h
  cases hprepare : r.prepare path options with
  | error e => rw [hprepare] at h; cases h
  | ok prepared =>
    obtain ⟨pattern, config, predicate⟩ := prepared
    simp only [hprepare] at h
    rcases hfind : r.findTemplate config path a with ⟨found, b'⟩
    rw [hfind] at h
    cases found with
    | error e => cases h
    | ok template =>
      cases hterminal : r.terminalOf path config template spec with
      | error e => simp only [hterminal] at h; cases h
      | ok t =>
        simp only [hterminal] at h
        cases h
        obtain ⟨hpattern, hconfig, hpredicate⟩ := prepare_eq_ok_iff.1 hprepare
        obtain ⟨pairs, transactions, hpairs, hguard, htx, rfl⟩ :=
          terminalOf_eq_ok_iff.1 hterminal
        refine ⟨config, _, ?_, rfl⟩
        exact { method := rfl, pattern := hpattern, validated := hconfig, predicate := hpredicate
                template := by rw [hfind]; rfl, headers := ⟨pairs, hpairs, rfl⟩, roles := rfl
                guarded := hguard, authenticator := rfl, transactions := htx, function := rfl
                injections := rfl, serializer := rfl }

theorem Makes.route {a : σ} {config : HandlerConfig σ} {p : PendingRoute σ}
    (h : r.Makes a method path options spec config p) :
    r.route method path options spec a =
      (.ok { r with routes := r.routes ++ [p] }, (r.findTemplate config path a).2) := by
  have hprepare := prepare_eq_ok_iff.2 ⟨h.pattern, h.validated, h.predicate⟩
  have htemplate := h.template
  rw [route_apply, hprepare]
  rcases hfind : r.findTemplate config path a with ⟨found, b⟩
  rw [hfind] at htemplate
  obtain rfl : found = .ok p.terminal.template := htemplate
  simp only [hfind, h.terminalOf_eq, ← h.method]
  rfl

end Registry

end WebDispatch
