import WebDispatch.Text.CodePoints

namespace WebDispatch.Text

/-- The characters with the property White_Space. -/
def blanks : CodePoints :=
  [(0x09, 0x0D), (0x20, 0x20), (0x85, 0x85), (0xA0, 0xA0), (0x1680, 0x1680), (0x2000, 0x200A),
    (0x2028, 0x2029), (0x202F, 0x202F), (0x205F, 0x205F), (0x3000, 0x3000)]

def isBlank (c : Char) : Bool :=
  blanks.has c

def strip {α : Type} (drop : α → Bool) (cs : List α) : List α :=
  ((cs.dropWhile drop).reverse.dropWhile drop).reverse

def trim (s : String) : String :=
  .ofList (strip isBlank s.toList)

def trimStart (s : String) : String :=
  .ofList (s.toList.dropWhile isBlank)

theorem strip_eq_self {α : Type} {drop : α → Bool} {cs : List α} (h : ∀ c ∈ cs, drop c = false) :
    strip drop cs = cs := by
  have hfront (ds : List α) (hds : ∀ d ∈ ds, drop d = false) : ds.dropWhile drop = ds := by
    cases ds with
    | nil => rfl
    | cons d ds => simp [hds d]
  rw [strip, hfront cs h, hfront _ (by simpa using h), List.reverse_reverse]

end WebDispatch.Text
