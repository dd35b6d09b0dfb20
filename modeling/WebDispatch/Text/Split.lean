namespace WebDispatch.Text

section
variable {α : Type} [DecidableEq α]

def cutFirst (sep : α) : List α → Option (List α × List α)
  | [] => none
  | c :: cs => if c = sep then some ([], cs) else (cutFirst sep cs).map fun p ↦ (c :: p.1, p.2)

theorem cutFirst_append (sep : α) (l r : List α) (h : sep ∉ l) :
    cutFirst sep (l ++ sep :: r) = some (l, r) := by
  induction l with
  | nil => simp [cutFirst]
  | cons c l ih =>
    simp only [List.mem_cons, not_or] at h
    simp [cutFirst, Ne.symm h.1, ih h.2]

theorem cutFirst_eq_none_iff (sep : α) (l : List α) : cutFirst sep l = none ↔ sep ∉ l := by
  induction l with
  | nil => simp [cutFirst]
  | cons c l ih =>
    by_cases h : c = sep
    · simp [cutFirst, h]
    · simp [cutFirst, h, ih, Ne.symm h]

theorem eq_append_of_cutFirst {sep : α} {s l r : List α} (h : cutFirst sep s = some (l, r)) :
    s = l ++ sep :: r ∧ sep ∉ l := by
  induction s generalizing l with
  | nil => simp [cutFirst] at h
  | cons c s ih =>
    by_cases hc : c = sep
    · simp only [cutFirst, hc, if_true, Option.some.injEq, Prod.mk.injEq] at h
      obtain ⟨rfl, rfl⟩ := h
      simp [hc]
    · simp only [cutFirst, hc, if_false, Option.map_eq_some_iff, Prod.mk.injEq] at h
      obtain ⟨⟨l', r'⟩, hp, rfl, rfl⟩ := h
      obtain ⟨rfl, hl⟩ := ih hp
      simp [hl, Ne.symm hc]

end

def isInfix (word : List Char) : List Char → Bool
  | [] => word.isEmpty
  | c :: cs => word.isPrefixOf (c :: cs) || isInfix word cs

def pieces (sep : Char) (s : String) : List String :=
  (s.toList.splitOn sep).map .ofList

def cut (sep : Char) (s : String) : Option (String × String) :=
  (cutFirst sep s.toList).map fun p ↦ (.ofList p.1, .ofList p.2)

theorem cut_eq_some_iff {sep : Char} {s l r : String} :
    cut sep s = some (l, r) ↔ s = l ++ String.singleton sep ++ r ∧ sep ∉ l.toList := by
  have hsplit : s = l ++ String.singleton sep ++ r ↔ s.toList = l.toList ++ sep :: r.toList := by
    rw [← String.toList_inj]
    simp [String.toList_append]
  rw [hsplit]
  constructor
  · intro h
    obtain ⟨⟨front, back⟩, hcut, hpair⟩ := Option.map_eq_some_iff.1 h
    cases hpair
    simpa only [String.toList_ofList] using eq_append_of_cutFirst hcut
  · intro ⟨hs, hl⟩
    rw [cut, hs, cutFirst_append _ _ _ hl, Option.map_some, String.ofList_toList,
      String.ofList_toList]

end WebDispatch.Text
