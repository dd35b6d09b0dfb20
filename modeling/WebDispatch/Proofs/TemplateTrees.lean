import WebDispatch.Proofs.OrderedObjects
import WebDispatch.Table
import WebDispatch.Template.Data

namespace WebDispatch

/-! ### Paths -/

namespace Json

/-- A step from a value to one of those inside it. -/
inductive Step
  | item (i : Nat)
  | field (name : String)
  deriving DecidableEq, Repr

def step? (v : Json) : Step → Option Json
  | .item i => v.items[i]?
  | .field name => v.field? name

def follow? (v : Json) (path : List Step) : Option Json :=
  path.foldlM step? v

/-- What a value shows before any step into it. -/
inductive Shape
  | null
  | bool (b : Bool)
  | number (n : Number)
  | string (s : String)
  | list (length : Nat)
  | map (names : List String)
  deriving DecidableEq, Repr

def shape : Json → Shape
  | .null => .null
  | .bool b => .bool b
  | .number n => .number n
  | .string s => .string s
  | .array items => .list items.length
  | .object fields => .map (fields.map Prod.fst)

theorem field?_eq_none {v : Json} (h : ∀ fields, v ≠ .object fields) (name : String) :
    v.field? name = none := by
  cases v with
  | object fields => exact absurd rfl (h fields)
  | _ => rfl

theorem IsOrdered.step {v w : Json} {s : Step} (h : v.IsOrdered) (hs : v.step? s = some w) :
    w.IsOrdered := by
  cases s with
  | item i =>
    cases h with
    | array hitems => exact hitems w (List.mem_of_getElem? hs)
    | _ => cases hs
  | field name =>
    cases h with
    | object horder hfields =>
      obtain ⟨before, after, rfl, -⟩ := List.lookup_eq_some_iff.1 hs
      exact hfields (name, w) (List.mem_append_right before List.mem_cons_self)
    | _ => cases hs

theorem IsOrdered.follow {v w : Json} {path : List Step} (h : v.IsOrdered)
    (hw : v.follow? path = some w) : w.IsOrdered := by
  induction path generalizing v with
  | nil =>
    cases hw
    exact h
  | cons s path ih =>
    rw [follow?, List.foldlM_cons] at hw
    obtain ⟨u, hu, hw⟩ := Option.bind_eq_some_iff.1 hw
    exact ih (h.step hu) hw

end Json

namespace TemplateData

def items : TemplateData → List TemplateData
  | list ds => ds
  | _ => []

def step? (d : TemplateData) : Json.Step → Option TemplateData
  | .item i => d.items[i]?
  | .field name => d.get? name

def follow? (d : TemplateData) (path : List Json.Step) : Option TemplateData :=
  path.foldlM step? d

def shape : TemplateData → Json.Shape
  | null => .null
  | bool b => .bool b
  | number n => .number n
  | string s => .string s
  | list items => .list items.length
  | map fields => .map (fields.map Prod.fst)

/-! ### The conversions, one level at a time -/

variable {fields : List (String × Json)} {v : Json}

theorem ofItems_eq_map (items : List Json) : ofItems items = items.map ofJson := by
  induction items with
  | nil => rfl
  | cons v items ih => rw [ofItems, ih, List.map_cons]

theorem ofFields_eq_map (fields : List (String × Json)) :
    ofFields fields = fields.map (Prod.map id ofJson) := by
  induction fields with
  | nil => rfl
  | cons f fields ih => rw [ofFields, ih, List.map_cons]; rfl

theorem toItems_eq_map (items : List TemplateData) : toItems items = items.map toJson := by
  induction items with
  | nil => rfl
  | cons d items ih => rw [toItems, ih, List.map_cons]

theorem toFields_eq_map (fields : List (String × TemplateData)) :
    toFields fields = fields.map (Prod.map id toJson) := by
  induction fields with
  | nil => rfl
  | cons f fields ih => rw [toFields, ih, List.map_cons]; rfl

theorem ofJson_array (items : List Json) : ofJson (.array items) = list (items.map ofJson) := by
  rw [ofJson, ofItems_eq_map]

theorem toJson_list (items : List TemplateData) :
    toJson (list items) = .array (items.map toJson) := by
  rw [toJson, toItems_eq_map]

/-- Converted fields keep their names, so they are put in one behind the other. -/
theorem ofJson_object (h : Json.InOrder fields) :
    ofJson (.object fields) = map (fields.map (Prod.map id ofJson)) := by
  rw [ofJson, ofFields_eq_map, (h.map_values ofJson).sortFields_eq]

theorem toJson_map {fields : List (String × TemplateData)} (h : Json.InOrder fields) :
    toJson (map fields) = .object (fields.map (Prod.map id toJson)) := by
  rw [toJson, toFields_eq_map, Json.ofFields, (h.map_values toJson).sortFields_eq]

theorem shape_ofJson (h : v.IsOrdered) : (ofJson v).shape = v.shape := by
  cases h with
  | null | bool b | number n | string s => rfl
  | array hitems => rw [ofJson_array, shape, List.length_map, Json.shape]
  | object horder hfields =>
    rw [ofJson_object horder, shape, List.map_map, Json.shape]
    rfl

theorem items_ofJson (h : v.IsOrdered) : (ofJson v).items = v.items.map ofJson := by
  cases h with
  | null | bool b | number n | string s => rfl
  | array hitems => rw [ofJson_array, TemplateData.items, Json.items]
  | object horder hfields =>
    rw [ofJson_object horder]
    rfl

theorem lookup_map_field {α β : Type} (name : String) (f : α → β) (fields : List (String × α)) :
    (fields.map (Prod.map id f)).lookup name = (fields.lookup name).map f := by
  induction fields with
  | nil => rfl
  | cons field fields ih =>
    obtain ⟨k, a⟩ := field
    rw [List.map_cons, Prod.map_apply, Table.lookup_cons_eq_ite, Table.lookup_cons_eq_ite, ih, id]
    split <;> rfl

theorem get?_ofJson (h : v.IsOrdered) (name : String) :
    (ofJson v).get? name = (v.field? name).map ofJson := by
  cases h with
  | null | bool b | number n | string s => rfl
  | array hitems =>
    rw [ofJson_array]
    rfl
  | object horder hfields =>
    rw [ofJson_object horder]
    exact lookup_map_field name ofJson _

theorem step?_ofJson (h : v.IsOrdered) (s : Json.Step) :
    (ofJson v).step? s = (v.step? s).map ofJson := by
  cases s with
  | item i => rw [step?, items_ofJson h, List.getElem?_map, Json.step?]
  | field name => exact get?_ofJson h name

/-! ### The way back, and every path -/

theorem toJson_ofJson (h : v.IsOrdered) : toJson (ofJson v) = v := by
  induction h with
  | null | bool b | number n | string s => rfl
  | @array items hitems ih =>
    rw [ofJson_array, toJson_list, List.map_map]
    congr 1
    exact (List.map_congr_left ih).trans (List.map_id items)
  | @object fields horder hfields ih =>
    rw [ofJson_object horder, toJson_map (horder.map_values ofJson), List.map_map]
    congr 1
    have hsame : ∀ f ∈ fields, (Prod.map id toJson ∘ Prod.map id ofJson) f = id f :=
      fun f hf ↦ Prod.ext rfl (ih f hf)
    exact (List.map_congr_left hsame).trans (List.map_id fields)

theorem follow?_ofJson (h : v.IsOrdered) (path : List Json.Step) :
    (ofJson v).follow? path = (v.follow? path).map ofJson := by
  induction path generalizing v with
  | nil => rfl
  | cons s path ih =>
    rw [follow?, List.foldlM_cons, step?_ofJson h, Json.follow?, List.foldlM_cons]
    cases hs : v.step? s with
    | none => rfl
    | some w => exact ih (h.step hs)

theorem shape_follow?_ofJson (h : v.IsOrdered) (path : List Json.Step) :
    ((ofJson v).follow? path).map shape = (v.follow? path).map Json.shape := by
  rw [follow?_ofJson h, Option.map_map]
  cases hw : v.follow? path with
  | none => rfl
  | some w => exact congrArg some (shape_ofJson (h.follow hw))

mutual

theorem isOrdered_toJson : ∀ d : TemplateData, d.toJson.IsOrdered
  | null => .null
  | bool b => .bool b
  | number n => .number n
  | string s => .string s
  | list items => by
    rw [toJson]
    exact .array (isOrdered_toItems items)
  | map fields => by
    rw [toJson]
    exact Json.isOrdered_ofFields (isOrdered_toFields fields)

theorem isOrdered_toItems : ∀ items : List TemplateData, ∀ v ∈ toItems items, v.IsOrdered
  | [] => nofun
  | d :: items => by
    rw [toItems]
    exact List.forall_mem_cons.2 ⟨isOrdered_toJson d, isOrdered_toItems items⟩

theorem isOrdered_toFields :
    ∀ fields : List (String × TemplateData), ∀ f ∈ toFields fields, f.2.IsOrdered
  | [] => nofun
  | (k, d) :: fields => by
    rw [toFields]
    exact List.forall_mem_cons.2 ⟨isOrdered_toJson d, isOrdered_toFields fields⟩

end

/-- A template loses nothing of a value that it is applied to, and a value is what has its objects in
order, as all that is read has. The way back then ends at the value, so no two values become the same
data. Whatever path is followed, the data shows what the value shows: the same scalar, a list of the
same length, or a map of the same names. And a name leads to the data of the field of that name, from
all but objects to nothing. -/
theorem ofJson_loses_nothing (v : Json) :
    (toJson (ofJson v) = v ↔ v.IsOrdered) ∧
    (∀ text, Json.Parser.parse? text = some v → v.IsOrdered) ∧
    (v.IsOrdered →
      (∀ w : Json, w.IsOrdered → ofJson w = ofJson v → w = v) ∧
      (∀ path, (ofJson v).follow? path = (v.follow? path).map ofJson ∧
        ((ofJson v).follow? path).map shape = (v.follow? path).map Json.shape) ∧
      (∀ fields, v = .object fields →
        ∀ name, (ofJson v).get? name = (fields.lookup name).map ofJson) ∧
      ((∀ fields, v ≠ .object fields) → ∀ name, (ofJson v).get? name = none)) := by
  refine ⟨⟨fun hback ↦ ?_, toJson_ofJson⟩, fun _ ↦ Json.Parser.isOrdered_of_parse?,
    fun h ↦ ⟨?_, ?_, ?_, ?_⟩⟩
  · rw [← hback]
    exact isOrdered_toJson _
  · intro w hw heq
    rw [← toJson_ofJson hw, heq, toJson_ofJson h]
  · exact fun path ↦ ⟨follow?_ofJson h path, shape_follow?_ofJson h path⟩
  · rintro fields rfl name
    exact get?_ofJson h name
  · intro hv name
    rw [get?_ofJson h, Json.field?_eq_none hv, Option.map_none]

example : toJson (ofJson (.object [("b", .int 2), ("a", .null), ("b", .bool true)])) =
    .object [("a", .null), ("b", .bool true)] := rfl

end TemplateData

end WebDispatch
