import Mathlib.Data.List.Induction
import Mathlib.Data.String.Basic
import WebDispatch.Json.Parser

namespace WebDispatch.Json

variable {α : Type} {name : String} {value : α} {fields : List (String × α)} {f : String × α}

/-! ### Fields -/

def InOrder (fields : List (String × α)) : Prop :=
  fields.Pairwise fun f g ↦ f.1 < g.1

theorem insertField_of_forall_lt (h : ∀ f ∈ fields, f.1 < name) :
    insertField name value fields = fields ++ [(name, value)] := by
  induction fields with
  | nil => rfl
  | cons f fields ih =>
    obtain ⟨hf, hfields⟩ := List.forall_mem_cons.1 h
    rw [insertField, if_neg (String.lt_asymm hf), if_neg (ne_of_gt hf), ih hfields,
      List.cons_append]

theorem mem_insertField (h : f ∈ insertField name value fields) :
    f = (name, value) ∨ f ∈ fields := by
  induction fields with
  | nil => exact .inl (List.mem_singleton.1 h)
  | cons g fields ih =>
    rw [insertField] at h
    split at h
    · exact List.mem_cons.1 h
    · split at h
      · exact (List.mem_cons.1 h).imp_right (List.mem_cons_of_mem g)
      · rcases List.mem_cons.1 h with rfl | h
        · exact .inr List.mem_cons_self
        · exact (ih h).imp_right (List.mem_cons_of_mem g)

theorem InOrder.insertField (h : InOrder fields) : InOrder (insertField name value fields) := by
  induction fields with
  | nil => exact List.pairwise_singleton _ _
  | cons g fields ih =>
    obtain ⟨hg, hfields⟩ := List.pairwise_cons.1 h
    rw [Json.insertField]
    split
    · rename_i hlt
      refine List.pairwise_cons.2 ⟨List.forall_mem_cons.2 ⟨hlt, fun f hf ↦ ?_⟩, h⟩
      exact String.lt_trans hlt (hg f hf)
    · split
      · rename_i heq
        subst heq
        exact List.pairwise_cons.2 ⟨hg, hfields⟩
      · rename_i hnlt hne
        refine List.pairwise_cons.2 ⟨fun f hf ↦ ?_, ih hfields⟩
        rcases mem_insertField hf with rfl | hf
        · exact lt_of_le_of_ne (not_lt.1 hnlt) (Ne.symm hne)
        · exact hg f hf

theorem InOrder.map_values {β : Type} (h : InOrder fields) (g : α → β) :
    InOrder (fields.map (Prod.map id g)) :=
  List.pairwise_map.2 h

theorem sortFields_append_singleton (fields : List (String × α)) (f : String × α) :
    sortFields (fields ++ [f]) = insertField f.1 f.2 (sortFields fields) := by
  rw [sortFields, List.foldl_append]
  rfl

theorem inOrder_sortFields (fields : List (String × α)) : InOrder (sortFields fields) := by
  induction fields using List.reverseRecOn with
  | nil => exact List.Pairwise.nil
  | append_singleton fields f ih =>
    rw [sortFields_append_singleton]
    exact ih.insertField

theorem mem_of_mem_sortFields (h : f ∈ sortFields fields) : f ∈ fields := by
  induction fields using List.reverseRecOn with
  | nil => exact h
  | append_singleton fields g ih =>
    rw [sortFields_append_singleton] at h
    rcases mem_insertField h with rfl | h
    · exact List.mem_append_right _ List.mem_cons_self
    · exact List.mem_append_left _ (ih h)

/-- Each field of a list in order comes behind those that were put in before it. -/
theorem InOrder.sortFields_eq (h : InOrder fields) : sortFields fields = fields := by
  induction fields using List.reverseRecOn with
  | nil => rfl
  | append_singleton fields f ih =>
    obtain ⟨hfields, -, hlast⟩ := List.pairwise_append.1 h
    rw [sortFields_append_singleton, ih hfields]
    exact insertField_of_forall_lt fun g hg ↦ hlast g hg f List.mem_cons_self

/-! ### Values -/

/-- The fields of every object inside a value are in order. -/
inductive IsOrdered : Json → Prop
  | null : IsOrdered .null
  | bool (b : Bool) : IsOrdered (.bool b)
  | number (n : Number) : IsOrdered (.number n)
  | string (s : String) : IsOrdered (.string s)
  | array {items : List Json} (hitems : ∀ v ∈ items, IsOrdered v) : IsOrdered (.array items)
  | object {fields : List (String × Json)} (horder : InOrder fields)
      (hfields : ∀ f ∈ fields, IsOrdered f.2) : IsOrdered (.object fields)

theorem isOrdered_ofFields {fields : List (String × Json)} (h : ∀ f ∈ fields, f.2.IsOrdered) :
    (ofFields fields).IsOrdered :=
  .object (inOrder_sortFields fields) fun f hf ↦ h f (mem_of_mem_sortFields hf)

/-! ### Values that are read -/

namespace Parser

variable {fuel depth : Nat} {cs rest : List Char}

structure ReadsOrdered (fuel : Nat) : Prop where
  value : ∀ depth cs v rest, Parser.value fuel depth cs = some (v, rest) → v.IsOrdered
  items : ∀ depth cs vs rest, Parser.items fuel depth cs = some (vs, rest) →
    ∀ v ∈ vs, v.IsOrdered
  fields : ∀ depth cs fs rest, Parser.fields fuel depth cs = some (fs, rest) →
    ∀ f ∈ fs, f.2.IsOrdered

theorem ReadsOrdered.value_succ {v : Json} (ih : ReadsOrdered fuel)
    (h : Parser.value (fuel + 1) depth cs = some (v, rest)) : v.IsOrdered := by
  rw [Parser.value] at h
  split at h
  case h_1 | h_2 | h_3 =>
    cases h
    constructor
  -- a string or a number
  case h_4 | h_7 =>
    obtain ⟨p, -, hp⟩ := Option.map_eq_some_iff.1 h
    cases hp
    constructor
  -- an array, which is empty or has items
  case h_5 =>
    split at h
    · cases h
    · split at h
      · cases h
        exact .array nofun
      · obtain ⟨p, hp, hv⟩ := Option.map_eq_some_iff.1 h
        cases hv
        exact .array (ih.items _ _ _ _ hp)
  -- an object, whose fields are put in order
  case h_6 =>
    split at h
    · cases h
    · split at h
      · cases h
        exact .object .nil nofun
      · obtain ⟨p, hp, hv⟩ := Option.map_eq_some_iff.1 h
        cases hv
        exact isOrdered_ofFields (ih.fields _ _ _ _ hp)

theorem ReadsOrdered.items_succ {vs : List Json} (ih : ReadsOrdered fuel)
    (h : Parser.items (fuel + 1) depth cs = some (vs, rest)) : ∀ v ∈ vs, v.IsOrdered := by
  rw [Parser.items] at h
  obtain ⟨⟨x, cs⟩, hx, h⟩ := Option.bind_eq_some_iff.1 h
  have hfirst := ih.value _ _ _ _ hx
  dsimp only at h
  split at h
  · cases h
    exact List.forall_mem_singleton.2 hfirst
  · obtain ⟨⟨xs, cs⟩, hxs, h⟩ := Option.bind_eq_some_iff.1 h
    cases h
    exact List.forall_mem_cons.2 ⟨hfirst, ih.items _ _ _ _ hxs⟩
  · cases h

theorem ReadsOrdered.fields_succ {fs : List (String × Json)} (ih : ReadsOrdered fuel)
    (h : Parser.fields (fuel + 1) depth cs = some (fs, rest)) : ∀ f ∈ fs, f.2.IsOrdered := by
  rw [Parser.fields] at h
  split at h
  case h_2 => cases h
  obtain ⟨⟨k, cs⟩, -, h⟩ := Option.bind_eq_some_iff.1 h
  dsimp only at h
  split at h
  case h_2 => cases h
  obtain ⟨⟨v, cs⟩, hv, h⟩ := Option.bind_eq_some_iff.1 h
  have hfirst := ih.value _ _ _ _ hv
  dsimp only at h
  split at h
  · cases h
    exact List.forall_mem_singleton.2 hfirst
  · obtain ⟨⟨fs, cs⟩, hfs, h⟩ := Option.bind_eq_some_iff.1 h
    cases h
    exact List.forall_mem_cons.2 ⟨hfirst, ih.fields _ _ _ _ hfs⟩
  · cases h

/-- Every call inside one with some fuel has less, so the induction is on the fuel. -/
theorem readsOrdered (fuel : Nat) : ReadsOrdered fuel := by
  induction fuel with
  | zero => exact ⟨nofun, nofun, nofun⟩
  | succ fuel ih =>
    exact ⟨fun _ _ _ _ ↦ ih.value_succ, fun _ _ _ _ ↦ ih.items_succ,
      fun _ _ _ _ ↦ ih.fields_succ⟩

theorem isOrdered_of_parse? {text : String} {v : Json} (h : parse? text = some v) :
    v.IsOrdered := by
  obtain ⟨⟨w, cs⟩, hw, h⟩ := Option.bind_eq_some_iff.1 h
  obtain ⟨-, -, h⟩ := Option.bind_eq_some_iff.1 h
  cases h
  exact (readsOrdered _).value _ _ _ _ hw

end Parser

end WebDispatch.Json
