namespace WebDispatch

structure Table (α : Type) where
  entries : List (String × α) := []
  deriving Repr

namespace Table

variable {α : Type}

def empty : Table α := {}

def get? (t : Table α) (name : String) : Option α :=
  t.entries.lookup name

def contains (t : Table α) (name : String) : Bool :=
  (t.get? name).isSome

def size (t : Table α) : Nat :=
  t.entries.length

def erase (t : Table α) (name : String) : Table α :=
  ⟨t.entries.filter fun e ↦ e.1 ≠ name⟩

def setIn (name : String) (value : α) : List (String × α) → List (String × α)
  | [] => [(name, value)]
  | e :: es => if e.1 = name then (name, value) :: es else e :: setIn name value es

/-- The table with a value for a name, in place of the one it has or at the end. -/
def insert (t : Table α) (name : String) (value : α) : Table α :=
  ⟨setIn name value t.entries⟩

theorem lookup_cons_eq_ite (name key : String) (value : α) (es : List (String × α)) :
    ((key, value) :: es).lookup name = if name = key then some value else es.lookup name := by
  rw [List.lookup_cons]
  by_cases h : name = key
  · simp [h]
  · have : (name == key) = false := by simp [h]
    simp [h, this]

theorem lookup_setIn (name other : String) (value : α) (es : List (String × α)) :
    (setIn name value es).lookup other = if other = name then some value else es.lookup other := by
  induction es with
  | nil => simp [setIn, lookup_cons_eq_ite]
  | cons e es ih =>
    obtain ⟨k, v⟩ := e
    by_cases hk : k = name
    · subst hk
      by_cases h : other = k <;> simp [setIn, lookup_cons_eq_ite, h]
    · simp only [setIn, hk, if_false, lookup_cons_eq_ite, ih]
      by_cases h : other = k
      · simp [h, hk]
      · simp [h]

theorem get?_insert (t : Table α) (name other : String) (value : α) :
    (t.insert name value).get? other = if other = name then some value else t.get? other :=
  lookup_setIn name other value t.entries

end Table

end WebDispatch
