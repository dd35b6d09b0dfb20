import WebDispatch.Proofs.Effects
import WebDispatch.Terminal

namespace WebDispatch

open Http

variable {σ : Type}

/-! ### Which principals roles let in -/

namespace Roles

theorem isOpen_ofList_iff (names : List String) : (ofList names).isOpen = true ↔ names = [] := by
  rw [isOpen, List.isEmpty_iff]
  constructor
  · intro h
    cases names with
    | nil => rfl
    | cons n names =>
      have hn := (mem_names_ofList (n :: names) n).2 List.mem_cons_self
      rw [h] at hn
      cases hn
  · rintro rfl
    rfl

theorem contains_ofList_iff (names : List String) (role : String) :
    (ofList names).contains role = true ↔ role ∈ names := by
  rw [contains, List.contains_iff_mem, mem_names_ofList]

theorem check_ofList_iff (names : List String) (p : Principal) :
    (ofList names).check (some p) = .ok () ↔
      anyone ∈ names ∨ ∃ role ∈ names, p.hasRole role = true := by
  have hany : p.roles.names.any (ofList names).contains = true ↔
      ∃ role ∈ names, p.hasRole role = true := by
    rw [List.any_eq_true]
    refine exists_congr fun role ↦ ?_
    rw [contains_ofList_iff, Principal.hasRole, contains, List.contains_iff_mem, and_comm]
  rw [check, ← contains_ofList_iff, ← hany, ← Bool.or_eq_true]
  split <;> simp_all

end Roles

namespace Authentication

/-- The answers on which a list of roles keeps a client out. -/
inductive Denied (names : List String) : Authentication → Prop
  | refused : Denied names .refused
  | unknown : Denied names (.authenticated none)
  | unfit {p : Principal} (hw : Roles.anyone ∉ names)
      (hr : ∀ role ∈ names, p.hasRole role = false) : Denied names (.authenticated (some p))

def closed : Authentication → Exchange → Exchange
  | refused, x => x.finish
  | authenticated principal, x => Terminal.endWith 403 { x with principal }

theorem Denied.check {names : List String} {principal : Option Principal}
    (h : Denied names (.authenticated principal)) :
    ∃ d, (Roles.ofList names).check principal = .error d := by
  cases h with
  | unknown => exact ⟨_, rfl⟩
  | @unfit p hw hr =>
    cases hc : (Roles.ofList names).check (some p) with
    | error d => exact ⟨d, rfl⟩
    | ok a =>
      rcases (Roles.check_ofList_iff names p).1 hc with h | ⟨role, hm, hp⟩
      · exact absurd h hw
      · rw [hr role hm] at hp
        cases hp

end Authentication

namespace Terminal

variable {t : Terminal σ} {names : List String} {auth : Authenticator σ} {s u : Scene σ}

def pass (roles : Roles) (answer : Authentication) (x : Exchange) : Bool × Exchange :=
  match answer with
  | .refused => (false, x.finish)
  | .authenticated principal => judge roles principal x

theorem authorize_apply (hroles : t.roles = .ofList names) (hne : names ≠ [])
    (hauth : t.authenticator = some auth) {answer : Authentication}
    (h : auth s = (.ok answer, u)) :
    t.authorize s = (.ok (pass (.ofList names) answer u.exchange).1,
      { u with exchange := (pass (.ofList names) answer u.exchange).2 }) := by
  have ho : ¬ t.roles.isOpen = true := by
    rw [hroles, Roles.isOpen_ofList_iff]
    exact hne
  rw [authorize, if_neg ho, ← hroles]
  simp only [hauth]
  rw [Run.bind_of_ok h]
  cases answer <;> rfl

theorem pass_of_denied {answer : Authentication} (hd : answer.Denied names) (x : Exchange) :
    pass (.ofList names) answer x = (false, answer.closed x) := by
  cases answer with
  | refused => rfl
  | authenticated principal =>
    obtain ⟨d, hc⟩ := hd.check
    simp only [pass, judge, hc, Authentication.closed]

theorem pass_of_admitted {p : Principal}
    (hp : Roles.anyone ∈ names ∨ ∃ role ∈ names, p.hasRole role = true) (x : Exchange) :
    pass (.ofList names) (.authenticated (some p)) x = (true, { x with principal := some p }) := by
  simp only [pass, judge, (Roles.check_ofList_iff names p).2 hp]

theorem handler_of_authorized (h : t.authorize s = (.ok true, u)) :
    t.handler s = (t.invokeInTransaction >>= t.respond)
      { u with exchange := putHeaders t.headers u.exchange } := by
  rw [handler, Run.bind_of_ok h, if_pos rfl, Run.modifyExchange_bind]

theorem handler_of_unauthorized (h : t.authorize s = (.ok false, u)) : t.handler s = (.ok (), u) := by
  rw [handler, Run.bind_of_ok h, if_neg Bool.false_ne_true]
  rfl

theorem handler_of_denied (hroles : t.roles = .ofList names) (hne : names ≠ [])
    (hauth : t.authenticator = some auth) {answer : Authentication}
    (h : auth s = (.ok answer, u)) (hd : answer.Denied names) :
    t.handler s = (.ok (), { u with exchange := answer.closed u.exchange }) := by
  refine handler_of_unauthorized ?_
  rw [authorize_apply hroles hne hauth h, pass_of_denied hd]

theorem handler_of_admitted (hroles : t.roles = .ofList names) (hne : names ≠ [])
    (hauth : t.authenticator = some auth) {p : Principal}
    (h : auth s = (.ok (.authenticated (some p)), u))
    (hp : Roles.anyone ∈ names ∨ ∃ role ∈ names, p.hasRole role = true) :
    t.handler s = (t.invokeInTransaction >>= t.respond)
      { u with exchange := putHeaders t.headers { u.exchange with principal := some p } } := by
  have ha : t.authorize s =
      (.ok true, { u with exchange := { u.exchange with principal := some p } }) := by
    rw [authorize_apply hroles hne hauth h, pass_of_admitted hp]
  exact handler_of_authorized ha

/-! ### The headers of a route -/

/-- The value that a route puts for a name, which is the last one it has. -/
def configured? (t : Terminal σ) (name : HeaderName) : Option HeaderValue :=
  (t.headers.filter fun h ↦ h.1 = name).getLast?.map Prod.snd

theorem getAll_foldl_insert (pairs : List (HeaderName × HeaderValue)) (headers : Headers)
    (name : HeaderName) :
    (pairs.foldl (fun hs h ↦ hs.insert h.1 h.2) headers).getAll name =
      match (pairs.filter fun h ↦ h.1 = name).getLast?.map Prod.snd with
      | some value => [value]
      | none => headers.getAll name := by
  induction pairs generalizing headers with
  | nil => rfl
  | cons h pairs ih =>
    rw [List.foldl_cons, ih, Headers.getAll_insert]
    by_cases hn : h.1 = name
    · rw [List.filter_cons_of_pos (by simpa using hn), List.getLast?_cons]
      cases (pairs.filter fun h ↦ h.1 = name).getLast? <;> simp [hn]
    · rw [List.filter_cons_of_neg (by simpa using hn), if_neg hn]

theorem getAll_putHeaders (t : Terminal σ) (x : Exchange) (name : HeaderName) :
    (putHeaders t.headers x).headers.getAll name =
      match t.configured? name with
      | some value => [value]
      | none => x.headers.getAll name :=
  getAll_foldl_insert t.headers x.headers name

end Terminal

end WebDispatch
