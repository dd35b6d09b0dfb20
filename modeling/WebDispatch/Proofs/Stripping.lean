import Mathlib.Data.List.TakeWhile
import WebDispatch.Text.Blank

namespace WebDispatch.Text

variable {drop : Char → Bool} {front mid back cs : List Char}

/-- The ends of a text are to stay. -/
structure Bare (drop : Char → Bool) (cs : List Char) : Prop where
  first : ∀ c ∈ cs.head?, drop c = false
  last : ∀ c ∈ cs.getLast?, drop c = false

theorem bare_of_forall (h : ∀ c ∈ cs, drop c = false) : Bare drop cs where
  first c hc := h c (List.mem_of_head? hc)
  last c hc := h c (List.mem_of_getLast? hc)

theorem bare_append (hfirst : ∀ c ∈ cs.head?, drop c = false) (hback : ∀ c ∈ back, drop c = false)
    (hne : back ≠ []) : Bare drop (cs ++ back) where
  first c hc := by
    cases cs with
    | nil => exact hback c (List.mem_of_head? hc)
    | cons d cs => exact hfirst c hc
  last c hc := by
    obtain ⟨d, hd⟩ := Option.isSome_iff_exists.1 (List.getLast?_isSome.2 hne)
    rw [List.getLast?_append, hd, Option.some_or] at hc
    cases hc
    exact hback c (List.mem_of_getLast? hd)

theorem dropWhile_of_head? (h : ∀ c ∈ cs.head?, drop c = false) : cs.dropWhile drop = cs := by
  cases cs with
  | nil => rfl
  | cons c cs =>
    have hc : drop c = false := h c rfl
    simp [hc]

theorem strip_between (hfront : ∀ c ∈ front, drop c = true) (hmid : Bare drop mid)
    (hback : ∀ c ∈ back, drop c = true) : strip drop (front ++ mid ++ back) = mid := by
  have hreverse : ∀ c ∈ back.reverse, drop c = true := by simpa using hback
  rw [strip, List.append_assoc, List.dropWhile_append_of_pos hfront]
  by_cases hm : mid = []
  · have hall : back.dropWhile drop = [] := List.dropWhile_eq_nil_iff.2 hback
    simp [hm, hall]
  · have hfirst : ∀ c ∈ (mid ++ back).head?, drop c = false := by
      cases mid with
      | nil => exact absurd rfl hm
      | cons c mid => exact hmid.first
    have hlast : ∀ c ∈ mid.reverse.head?, drop c = false := by
      rw [List.head?_reverse]
      exact hmid.last
    rw [dropWhile_of_head? hfirst, List.reverse_append, List.dropWhile_append_of_pos hreverse,
      dropWhile_of_head? hlast, List.reverse_reverse]

theorem exists_dropWhile_eq_strip_append (drop : Char → Bool) (cs : List Char) :
    ∃ back, (∀ c ∈ back, drop c = true) ∧ cs.dropWhile drop = strip drop cs ++ back := by
  refine ⟨((cs.dropWhile drop).reverse.takeWhile drop).reverse, ?_, ?_⟩
  · intro c hc
    exact List.mem_takeWhile_imp (List.mem_reverse.1 hc)
  · rw [strip, ← List.reverse_append, List.takeWhile_append_dropWhile, List.reverse_reverse]

theorem exists_eq_append_strip (drop : Char → Bool) (cs : List Char) :
    ∃ front back, (∀ c ∈ front, drop c = true) ∧ (∀ c ∈ back, drop c = true) ∧
      cs = front ++ strip drop cs ++ back := by
  obtain ⟨back, hdrop, hback⟩ := exists_dropWhile_eq_strip_append drop cs
  refine ⟨cs.takeWhile drop, back, fun c hc ↦ List.mem_takeWhile_imp hc, hdrop, ?_⟩
  rw [List.append_assoc, ← hback, List.takeWhile_append_dropWhile]

theorem mem_strip_iff {c : Char} (h : drop c = false) : c ∈ strip drop cs ↔ c ∈ cs := by
  obtain ⟨front, back, hfront, hback, hcs⟩ := exists_eq_append_strip drop cs
  have hkept : ∀ l : List Char, (∀ d ∈ l, drop d = true) → c ∉ l := by
    intro l hl hc
    rw [hl c hc] at h
    cases h
  have hiff : c ∈ front ++ strip drop cs ++ back ↔ c ∈ strip drop cs := by
    simp [hkept front hfront, hkept back hback]
  rw [← hcs] at hiff
  exact hiff.symm

theorem eq_false_of_head?_strip {c : Char} (h : c ∈ (strip drop cs).head?) : drop c = false := by
  obtain ⟨back, -, hback⟩ := exists_dropWhile_eq_strip_append drop cs
  have hfirst : (cs.dropWhile drop).head? = some c := by
    rw [hback, List.head?_append, h, Option.some_or]
  rw [← List.find?_not_eq_head?_dropWhile] at hfirst
  simpa using List.find?_some hfirst

theorem exists_dropWhile_append_cons {c : Char} (h : drop c = false) (l r : List Char) :
    ∃ l', (l ++ c :: r).dropWhile drop = l' ++ c :: r := by
  induction l with
  | nil => exact ⟨[], by simp [h]⟩
  | cons d l ih =>
    by_cases hd : drop d = true
    · obtain ⟨l', hl⟩ := ih
      exact ⟨l', by simpa [hd] using hl⟩
    · exact ⟨d :: l, by simp [hd]⟩

/-- A character that stays keeps what stands before it, from where nothing is stripped on. -/
theorem exists_strip_append_cons {c : Char} (hfront : ∀ c ∈ front, drop c = true)
    (hcs : ∀ c ∈ cs.head?, drop c = false) (hc : drop c = false) (rest : List Char) :
    ∃ rest', strip drop (front ++ cs ++ c :: rest) = cs ++ c :: rest' := by
  have hfirst : ∀ d ∈ (cs ++ c :: rest).head?, drop d = false := by
    cases cs with
    | nil => simpa using hc
    | cons d cs => exact hcs
  obtain ⟨back, hback⟩ := exists_dropWhile_append_cons hc rest.reverse cs.reverse
  refine ⟨back.reverse, ?_⟩
  rw [strip, List.append_assoc, List.dropWhile_append_of_pos hfront, dropWhile_of_head? hfirst]
  simp only [List.reverse_append, List.reverse_cons, List.append_assoc, List.singleton_append,
    hback, List.reverse_reverse]

theorem bare_strip (drop : Char → Bool) (cs : List Char) : Bare drop (strip drop cs) where
  first _ hc := eq_false_of_head?_strip hc
  last c hc := by
    rw [strip, List.getLast?_reverse, ← List.find?_not_eq_head?_dropWhile] at hc
    simpa using List.find?_some hc

theorem strip_eq_iff : strip drop cs = mid ↔ Bare drop mid ∧
    ∃ front back, (∀ c ∈ front, drop c = true) ∧ (∀ c ∈ back, drop c = true) ∧
      cs = front ++ mid ++ back := by
  constructor
  · rintro rfl
    exact ⟨bare_strip drop cs, exists_eq_append_strip drop cs⟩
  · rintro ⟨hmid, front, back, hfront, hback, rfl⟩
    exact strip_between hfront hmid hback

theorem not_blank_of_alphanum {c : Char} (h : c.isAlphanum = true) : isBlank c = false := by
  have hrange : (65 ≤ c.toNat ∧ c.toNat ≤ 90 ∨ 97 ≤ c.toNat ∧ c.toNat ≤ 122) ∨
      48 ≤ c.toNat ∧ c.toNat ≤ 57 := by
    delta Char.isAlphanum Char.isAlpha Char.isUpper Char.isLower Char.isDigit at h
    simpa [UInt32.le_iff_toNat_le] using h
  simp [isBlank, blanks, CodePoints.has]
  omega

end WebDispatch.Text
