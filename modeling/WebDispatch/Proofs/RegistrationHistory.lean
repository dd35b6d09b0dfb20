import WebDispatch.Proofs.Registrations
import Mathlib.Data.List.Forall2
import Mathlib.Data.List.Induction

namespace WebDispatch

open Http

variable {σ : Type}

/-! ### What a call adds -/

inductive Entry (σ : Type)
  | route (p : PendingRoute σ)
  | wrapper (w : WrapperEntry σ)
  | channel (r : ChannelRoute σ)
  | rule

namespace Entry

def route? : Entry σ → Option (PendingRoute σ)
  | route p => some p
  | _ => none

def wrapper? : Entry σ → Option (WrapperEntry σ)
  | wrapper w => some w
  | _ => none

def channel? : Entry σ → Option (ChannelRoute σ)
  | channel r => some r
  | _ => none

end Entry

inductive Registration.Adds (r : Registry σ) (a : σ) : Registration σ → Entry σ → Prop
  | route {method : Method} {path : String} {options : Options σ}
      {spec : HandlerSpec (RouteFunction σ)} {config : HandlerConfig σ} {p : PendingRoute σ}
      (h : r.Makes a method path options spec config p) :
      Adds r a (.route method path options spec) (.route p)
  | wrapper {source : Option (PredicateSource σ)} {spec : HandlerSpec (WrapperFunction σ)}
      {predicate : Option (Predicate σ)} (h : r.compilePredicate source = .ok predicate) :
      Adds r a (.wrapper source spec)
        (.wrapper ⟨predicate, r.injector.bind spec.specifiers, spec.function⟩)
  | withAlias (name specifier : String) : Adds r a (.withAlias name specifier) .rule
  | setDefault {name : String} {value : OptionValue σ} {d : Defaults σ}
      (h : r.defaults.set name value = .ok d) : Adds r a (.setDefault name value) .rule
  | channel {path : String} {spec : HandlerSpec (ChannelFunction σ)} {pattern : PathPattern}
      (h : PathPattern.ofText path = .ok pattern) :
      Adds r a (.channel path spec)
        (.channel ⟨pattern, spec.function, r.injector.bind spec.specifiers⟩)

/-! ### What is in force -/

def Defaults.afterCall (d : Defaults σ) : Registration σ → Defaults σ
  | .setDefault name value => (d.set name value).toOption.getD d
  | _ => d

def Injector.afterCall (i : Injector σ) : Registration σ → Injector σ
  | .withAlias name specifier => i.withAlias name specifier
  | _ => i

namespace Registry

/-- A registry with the defaults and the aliases that are in force after some calls. -/
def inForce (r : Registry σ) (past : List (Registration σ)) : Registry σ :=
  { r with
    defaults := past.foldl Defaults.afterCall r.defaults
    injector := past.foldl Injector.afterCall r.injector }

def extend (r : Registry σ) (entries : List (Entry σ)) : Registry σ :=
  { r with
    routes := r.routes ++ entries.filterMap Entry.route?
    wrappers := r.wrappers ++ entries.filterMap Entry.wrapper?
    channels := r.channels ++ entries.filterMap Entry.channel? }

theorem extend_nil (r : Registry σ) : r.extend [] = r := by
  simp [extend]

theorem extend_append (r : Registry σ) (es fs : List (Entry σ)) :
    r.extend (es ++ fs) = (r.extend es).extend fs := by
  simp [extend]

theorem extend_route (r : Registry σ) (p : PendingRoute σ) :
    r.extend [.route p] = { r with routes := r.routes ++ [p] } := by
  simp [extend, Entry.route?, Entry.wrapper?, Entry.channel?]

theorem extend_wrapper (r : Registry σ) (w : WrapperEntry σ) :
    r.extend [.wrapper w] = { r with wrappers := r.wrappers ++ [w] } := by
  simp [extend, Entry.route?, Entry.wrapper?, Entry.channel?]

theorem extend_channel (r : Registry σ) (c : ChannelRoute σ) :
    r.extend [.channel c] = { r with channels := r.channels ++ [c] } := by
  simp [extend, Entry.route?, Entry.wrapper?, Entry.channel?]

theorem extend_rule (r : Registry σ) : r.extend [.rule] = r :=
  r.extend_nil

theorem inForce_append (r : Registry σ) (past later : List (Registration σ)) :
    r.inForce (past ++ later) = (r.inForce past).inForce later := by
  simp [inForce]

theorem inForce_extend (r : Registry σ) (es : List (Entry σ)) (past : List (Registration σ)) :
    (r.extend es).inForce past = (r.inForce past).extend es := rfl

end Registry

namespace Registration

/-- What is registered already has no part in what a call adds. -/
theorem Adds.frame {r : Registry σ} {a : σ} {c : Registration σ} {e : Entry σ} (h : c.Adds r a e)
    (routes : List (PendingRoute σ)) (wrappers : List (WrapperEntry σ))
    (channels : List (ChannelRoute σ)) : c.Adds { r with routes, wrappers, channels } a e := by
  cases h with
  | route h =>
    exact .route ⟨h.method, h.pattern, h.validated, h.predicate, h.template, h.headers, h.roles,
      h.guarded, h.authenticator, h.transactions, h.function, h.injections, h.serializer⟩
  | wrapper h => exact Adds.wrapper (r := { r with routes, wrappers, channels }) h
  | withAlias name specifier => exact .withAlias name specifier
  | setDefault h => exact .setDefault h
  | channel h => exact Adds.channel (r := { r with routes, wrappers, channels }) h

theorem adds_extend_iff {r : Registry σ} {es : List (Entry σ)} {a : σ} {c : Registration σ}
    {e : Entry σ} : c.Adds (r.extend es) a e ↔ c.Adds r a e :=
  ⟨fun h ↦ h.frame r.routes r.wrappers r.channels, fun h ↦ h.frame _ _ _⟩

theorem adds_of_apply {c : Registration σ} {r r' : Registry σ} {a b : σ}
    (h : c.apply r a = (.ok r', b)) :
    ∃ e, c.Adds r a e ∧ r' = (r.inForce [c]).extend [e] := by
  cases c with
  | route method path options spec =>
    obtain ⟨config, p, hp, rfl⟩ := Registry.makes_of_route h
    exact ⟨.route p, .route hp, (r.extend_route p).symm⟩
  | wrapper source spec =>
    simp only [apply, Registry.wrapper] at h
    cases hpredicate : r.compilePredicate source with
    | error e => rw [hpredicate] at h; cases h
    | ok predicate =>
      rw [hpredicate] at h
      cases h
      exact ⟨_, .wrapper hpredicate, (r.extend_wrapper _).symm⟩
  | withAlias name specifier =>
    cases h
    exact ⟨.rule, .withAlias name specifier, (Registry.extend_rule _).symm⟩
  | setDefault name value =>
    simp only [apply, Registry.setDefault] at h
    cases hset : r.defaults.set name value with
    | error e => rw [hset] at h; cases h
    | ok d =>
      rw [hset] at h
      cases h
      refine ⟨.rule, .setDefault hset, ?_⟩
      simp [Registry.extend_rule, Registry.inForce, Defaults.afterCall, Injector.afterCall, hset,
        Except.toOption]
  | channel path spec =>
    simp only [apply, Registry.channel] at h
    cases hpattern : PathPattern.ofText path with
    | error e => rw [hpattern] at h; cases h
    | ok pattern =>
      rw [hpattern] at h
      cases h
      exact ⟨_, .channel hpattern, (r.extend_channel _).symm⟩

theorem Adds.apply_ok {c : Registration σ} {r : Registry σ} {a : σ} {e : Entry σ}
    (h : c.Adds r a e) : ∃ r' b, c.apply r a = (.ok r', b) := by
  cases h with
  | route h => exact ⟨_, _, h.route⟩
  | wrapper h =>
    rw [apply, Registry.wrapper, h]
    exact ⟨_, _, rfl⟩
  | withAlias name specifier => exact ⟨_, _, rfl⟩
  | setDefault h =>
    rw [apply, Registry.setDefault, h]
    exact ⟨_, _, rfl⟩
  | channel h =>
    rw [apply, Registry.channel, h]
    exact ⟨_, _, rfl⟩

theorem inForce_of_apply_error {c : Registration σ} {r : Registry σ} {a b : σ} {e : Error}
    (h : c.apply r a = (.error e, b)) : r.inForce [c] = r := by
  cases c with
  | setDefault name value =>
    simp only [apply, Registry.setDefault] at h
    cases hset : r.defaults.set name value with
    | error e =>
      simp [Registry.inForce, Defaults.afterCall, Injector.afterCall, hset, Except.toOption]
    | ok d => rw [hset] at h; cases h
  | withAlias name specifier => cases h
  | route method path options spec => rfl
  | wrapper source spec => rfl
  | channel path spec => rfl

end Registration

/-! ### Runs of calls -/

def moments (past : List (Registration σ)) :
    List (Registration σ) → List (List (Registration σ) × Registration σ)
  | [] => []
  | c :: calls => (past, c) :: moments (past ++ [c]) calls

theorem moments_append (past calls later : List (Registration σ)) :
    moments past (calls ++ later) = moments past calls ++ moments (past ++ calls) later := by
  induction calls generalizing past with
  | nil => simp [moments]
  | cons c calls ih => simp [moments, ih]

theorem exists_of_mem_moments {past calls : List (Registration σ)}
    {m : List (Registration σ) × Registration σ} (h : m ∈ moments past calls) :
    ∃ later, past ++ calls = m.1 ++ m.2 :: later := by
  induction calls generalizing past with
  | nil => cases h
  | cons c calls ih =>
    rcases List.mem_cons.1 h with rfl | h
    · exact ⟨calls, rfl⟩
    · obtain ⟨later, hl⟩ := ih h
      exact ⟨later, by simpa using hl⟩

namespace Setup

theorem afterAll_append (s : Setup σ) (calls later : List (Registration σ)) :
    s.afterAll (calls ++ later) = (s.afterAll calls).afterAll later :=
  List.foldl_append

/-- The calls that succeed, with the calls before each. -/
def successes (s : Setup σ) (calls : List (Registration σ)) :
    List (List (Registration σ) × Registration σ) :=
  (moments [] calls).filter fun m ↦ (s.afterAll m.1).accepts m.2

theorem successes_concat (s : Setup σ) (calls : List (Registration σ)) (c : Registration σ) :
    s.successes (calls ++ [c]) =
      s.successes calls ++ if (s.afterAll calls).accepts c then [(calls, c)] else [] := by
  rw [successes, moments_append, List.filter_append]
  congr 1
  cases hc : (s.afterAll calls).accepts c <;> simp [moments, hc]

/-- A call adds an entry and changes what is in force, or does neither. -/
theorem after_cases (s : Setup σ) (c : Registration σ) :
    (s.accepts c = true ∧ ∃ e, c.Adds s.registry s.app e ∧
      (s.after c).registry = (s.registry.inForce [c]).extend [e]) ∨
    (s.accepts c = false ∧ (s.after c).registry = s.registry.inForce [c]) := by
  rcases happly : c.apply s.registry s.app with ⟨result, a⟩
  cases result with
  | ok r =>
    obtain ⟨e, he, hr⟩ := Registration.adds_of_apply happly
    refine .inl ⟨accepts_iff.2 ⟨r, a, happly⟩, e, he, ?_⟩
    rw [after, perform_of_apply_ok happly, hr]
  | error e =>
    refine .inr ⟨?_, ?_⟩
    · rw [accepts, perform_of_apply_error happly]
      rfl
    · rw [after, perform_of_apply_error happly, Registration.inForce_of_apply_error happly]

theorem registry_afterAll (s : Setup σ) (calls : List (Registration σ)) :
    ∃ entries,
      List.Forall₂ (fun m e ↦ m.2.Adds (s.registry.inForce m.1) (s.afterAll m.1).app e)
        (s.successes calls) entries ∧
      (s.afterAll calls).registry = (s.registry.inForce calls).extend entries := by
  -- What is in force goes by the calls, and what is registered by the entries, so each call is
  -- taken at the end of the history before it.
  induction calls using List.reverseRecOn with
  | nil => exact ⟨[], .nil, (s.registry.extend_nil).symm⟩
  | append_singleton calls c ih =>
    obtain ⟨entries, hadds, hreg⟩ := ih
    have hafter : (s.afterAll (calls ++ [c])).registry = ((s.afterAll calls).after c).registry := by
      rw [afterAll_append]
      rfl
    rcases (s.afterAll calls).after_cases c with ⟨hc, e, he, hr⟩ | ⟨hc, hr⟩
    · refine ⟨entries ++ [e], ?_, ?_⟩
      · rw [successes_concat, if_pos hc]
        rw [hreg] at he
        exact List.rel_append hadds (.cons (Registration.adds_extend_iff.1 he) .nil)
      · rw [hafter, hr, hreg, Registry.inForce_extend, ← Registry.inForce_append,
          ← Registry.extend_append]
    · refine ⟨entries, ?_, ?_⟩
      · rw [successes_concat, if_neg (by simp [hc]), List.append_nil]
        exact hadds
      · rw [hafter, hr, hreg, Registry.inForce_extend, ← Registry.inForce_append]

theorem accepts_afterAll_iff (s : Setup σ) (past : List (Registration σ)) (c : Registration σ) :
    (s.afterAll past).accepts c = true ↔
      ∃ e, c.Adds (s.registry.inForce past) (s.afterAll past).app e := by
  obtain ⟨entries, -, hreg⟩ := s.registry_afterAll past
  rw [accepts_iff, hreg]
  constructor
  · rintro ⟨r, a, h⟩
    obtain ⟨e, he, -⟩ := Registration.adds_of_apply h
    exact ⟨e, Registration.adds_extend_iff.1 he⟩
  · rintro ⟨e, he⟩
    exact (Registration.adds_extend_iff.2 he).apply_ok

end Setup

end WebDispatch
