namespace WebDispatch

/-- A set of roles, as the list of them in order. -/
structure Roles where
  names : List String := []
  deriving DecidableEq, Repr

namespace Roles

def insertIn (role : String) : List String → List String
  | [] => [role]
  | r :: rs =>
    if role < r then role :: r :: rs
    else if role = r then r :: rs
    else r :: insertIn role rs

def ofList (names : List String) : Roles :=
  ⟨names.foldl (fun rs r ↦ insertIn r rs) []⟩

def contains (r : Roles) (role : String) : Bool :=
  r.names.contains role

theorem mem_insertIn (role other : String) (rs : List String) :
    other ∈ insertIn role rs ↔ other = role ∨ other ∈ rs := by
  induction rs with
  | nil => simp [insertIn]
  | cons r rs ih =>
    simp only [insertIn]
    split
    · simp
    · split
      · rename_i h; simp [h]
      · simp only [List.mem_cons, ih]
        exact or_left_comm

theorem mem_names_ofList (names : List String) (role : String) :
    role ∈ (ofList names).names ↔ role ∈ names := by
  suffices h : ∀ rs, role ∈ names.foldl (fun rs r ↦ insertIn r rs) rs ↔ role ∈ names ∨ role ∈ rs by
    simpa [ofList] using h []
  induction names with
  | nil => simp
  | cons n names ih =>
    intro rs
    simp only [List.foldl_cons, ih, mem_insertIn, List.mem_cons, ← or_assoc]
    simp only [or_comm]

end Roles

structure Principal where
  name : String
  roles : Roles
  deriving DecidableEq, Repr

namespace Principal

def hasRole (p : Principal) (role : String) : Bool :=
  p.roles.contains role

end Principal

inductive Denial
  | noPrincipal
  | noRole (name : String)
  deriving DecidableEq, Repr

def Denial.message : Denial → String
  | .noPrincipal => "Forbidden: authenticated without a principal"
  | .noRole name => s!"Forbidden: '{name}' holds none of the required roles"

namespace Roles

def anyone : String := "**"

/-- A route without roles is open to all, also to clients that are not authenticated. -/
def isOpen (allowed : Roles) : Bool :=
  allowed.names.isEmpty

def check (allowed : Roles) : Option Principal → Except Denial Unit
  | none => .error .noPrincipal
  | some p =>
    if allowed.contains anyone || p.roles.names.any allowed.contains then .ok ()
    else .error (.noRole p.name)

end Roles

end WebDispatch
