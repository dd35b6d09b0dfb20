import Mathlib.Data.List.Basic
import Mathlib.Data.Option.Basic
import WebDispatch.Text.Base64

namespace WebDispatch.Text.Base64

/-! ### Letters -/

theorem letter_of_value? {c : Char} {n : Nat} (h : value? c = some n) : n < 64 ∧ letter n = c := by
  unfold value? at h
  split_ifs at h with hupper hlower hdigit hplus hslash
  all_goals
    simp only [Option.some.injEq] at h
    subst h
  · have hc : 65 ≤ c.toNat ∧ c.toNat ≤ 90 := hupper
    refine ⟨by omega, ?_⟩
    rw [letter, if_pos (by omega), Nat.sub_add_cancel hc.1, Char.ofNat_toNat]
  · have hc : 97 ≤ c.toNat ∧ c.toNat ≤ 122 := hlower
    refine ⟨by omega, ?_⟩
    rw [letter, if_neg (by omega), if_pos (by omega), Nat.sub_add_cancel (by omega),
      Char.ofNat_toNat]
  · have hc : 48 ≤ c.toNat ∧ c.toNat ≤ 57 := hdigit
    refine ⟨by omega, ?_⟩
    rw [letter, if_neg (by omega), if_neg (by omega), if_pos (by omega), Nat.add_sub_cancel,
      Char.ofNat_toNat]
  · exact ⟨by omega, hplus.symm⟩
  · exact ⟨by omega, hslash.symm⟩

theorem letter_ne_pad : ∀ n < 64, letter n ≠ '=' := by decide

theorem mem_encode {bs : Bytes} {c : Char} (h : c ∈ encode bs) :
    c = '=' ∨ ∃ n < 64, c = letter n := by
  fun_induction encode bs with
  | case1 => cases h
  | case2 a =>
    have ha := a.toNat_lt
    simp only [List.mem_cons, List.not_mem_nil, or_false] at h
    rcases h with h | h | h | h
    · exact .inr ⟨_, by omega, h⟩
    · exact .inr ⟨_, by omega, h⟩
    · exact .inl h
    · exact .inl h
  | case3 a b =>
    have ha := a.toNat_lt
    have hb := b.toNat_lt
    simp only [List.mem_cons, List.not_mem_nil, or_false] at h
    rcases h with h | h | h | h
    · exact .inr ⟨_, by omega, h⟩
    · exact .inr ⟨_, by omega, h⟩
    · exact .inr ⟨_, by omega, h⟩
    · exact .inl h
  | case4 a b c' bs ih =>
    have ha := a.toNat_lt
    have hb := b.toNat_lt
    have hc := c'.toNat_lt
    simp only [List.mem_cons] at h
    rcases h with h | h | h | h | h
    · exact .inr ⟨_, by omega, h⟩
    · exact .inr ⟨_, by omega, h⟩
    · exact .inr ⟨_, by omega, h⟩
    · exact .inr ⟨_, by omega, h⟩
    · exact ih h

/-! ### Groups -/

theorem toNat_byteAt_zero (n : Nat) : (byteAt n 0).toNat = n % 256 := by
  simp [byteAt]

theorem toNat_byteAt_one (n : Nat) : (byteAt n 1).toNat = n / 256 % 256 := by
  simp [byteAt, Nat.shiftRight_eq_div_pow]

theorem toNat_byteAt_two (n : Nat) : (byteAt n 2).toNat = n / 65536 % 256 := by
  simp [byteAt, Nat.shiftRight_eq_div_pow]

/-- The bytes that the values of four letters make. -/
def group (x y z w : Nat) : Bytes :=
  let n := x * 262144 + y * 4096 + z * 64 + w
  [byteAt n 2, byteAt n 1, byteAt n 0]

def pairOf (x y z : Nat) : Bytes :=
  let n := x * 1024 + y * 16 + z / 4
  [byteAt n 1, byteAt n 0]

variable {x y z w : Nat}

theorem group_eq_iff (hx : x < 64) (hy : y < 64) (hz : z < 64) (hw : w < 64) {a b c : UInt8} :
    group x y z w = [a, b, c] ↔
      x = a.toNat / 4 ∧ y = a.toNat % 4 * 16 + b.toNat / 16 ∧
        z = b.toNat % 16 * 4 + c.toNat / 64 ∧ w = c.toNat % 64 := by
  have ha := a.toNat_lt
  have hb := b.toNat_lt
  have hc := c.toNat_lt
  simp only [group, List.cons.injEq, and_true, ← UInt8.toNat_inj, toNat_byteAt_zero,
    toNat_byteAt_one, toNat_byteAt_two]
  omega

theorem pairOf_eq_iff (hx : x < 64) (hy : y < 64) (hz : z < 64) {a b : UInt8} :
    z % 4 = 0 ∧ pairOf x y z = [a, b] ↔
      x = a.toNat / 4 ∧ y = a.toNat % 4 * 16 + b.toNat / 16 ∧ z = b.toNat % 16 * 4 := by
  have ha := a.toNat_lt
  have hb := b.toNat_lt
  simp only [pairOf, List.cons.injEq, and_true, ← UInt8.toNat_inj, toNat_byteAt_zero,
    toNat_byteAt_one]
  omega

theorem byteAt_eq_iff (hx : x < 64) (hy : y < 64) {a : UInt8} :
    y % 16 = 0 ∧ byteAt (x * 4 + y / 16) 0 = a ↔ x = a.toNat / 4 ∧ y = a.toNat % 4 * 16 := by
  have ha := a.toNat_lt
  rw [← UInt8.toNat_inj, toNat_byteAt_zero]
  omega

/-! ### The last group -/

theorem lastGroup_one (hx : x < 64) (hy : y < 64) (d : Char) :
    lastGroup (letter x) (letter y) '=' d =
      if d = '=' ∧ y % 16 = 0 then some [byteAt (x * 4 + y / 16) 0] else none := by
  simp only [lastGroup, value?_letter _ hx, value?_letter _ hy, if_true, Option.pure_def,
    Option.bind_eq_bind, Option.bind_some, guard]
  split <;> rfl

theorem lastGroup_two (hx : x < 64) (hy : y < 64) (hz : z < 64) :
    lastGroup (letter x) (letter y) (letter z) '=' =
      if z % 4 = 0 then some (pairOf x y z) else none := by
  simp only [lastGroup, value?_letter _ hx, value?_letter _ hy, value?_letter _ hz,
    letter_ne_pad _ hz, if_true, if_false, Option.pure_def, Option.bind_eq_bind, Option.bind_some,
    guard]
  split <;> rfl

theorem lastGroup_three (hx : x < 64) (hy : y < 64) (hz : z < 64) (hw : w < 64) :
    lastGroup (letter x) (letter y) (letter z) (letter w) = some (group x y z w) := by
  simp only [lastGroup, value?_letter _ hx, value?_letter _ hy, value?_letter _ hz,
    value?_letter _ hw, letter_ne_pad _ hz, letter_ne_pad _ hw, if_false]
  rfl

theorem eq_encode_of_lastGroup {a b c d : Char} {bs : Bytes} (h : lastGroup a b c d = some bs) :
    [a, b, c, d] = encode bs := by
  have hread := h
  unfold lastGroup at hread
  obtain ⟨x, hxa, hread⟩ := Option.bind_eq_some_iff.1 hread
  obtain ⟨y, hyb, hread⟩ := Option.bind_eq_some_iff.1 hread
  obtain ⟨hx, ha⟩ := letter_of_value? hxa
  obtain ⟨hy, hb⟩ := letter_of_value? hyb
  rw [← ha, ← hb] at h ⊢
  by_cases hc : c = '='
  · rw [hc, lastGroup_one hx hy] at h
    split_ifs at h with hpad
    obtain ⟨hd, hbits⟩ := hpad
    cases h
    obtain ⟨hx', hy'⟩ := (byteAt_eq_iff hx hy).1 ⟨hbits, rfl⟩
    rw [hc, hd, encode, ← hx', ← hy']
  rw [if_neg hc] at hread
  obtain ⟨z, hzc, hread⟩ := Option.bind_eq_some_iff.1 hread
  obtain ⟨hz, hc⟩ := letter_of_value? hzc
  rw [← hc] at h ⊢
  by_cases hd : d = '='
  · rw [hd, lastGroup_two hx hy hz] at h
    split_ifs at h with hbits
    cases h
    obtain ⟨hx', hy', hz'⟩ := (pairOf_eq_iff hx hy hz).1 ⟨hbits, rfl⟩
    rw [hd, pairOf, encode, ← hx', ← hy', ← hz']
  · rw [if_neg hd] at hread
    obtain ⟨w, hwd, -⟩ := Option.bind_eq_some_iff.1 hread
    obtain ⟨hw, hd⟩ := letter_of_value? hwd
    rw [← hd, lastGroup_three hx hy hz hw] at h
    cases h
    obtain ⟨hx', hy', hz', hw'⟩ := (group_eq_iff hx hy hz hw).1 rfl
    rw [← hd, group, encode, encode, ← hx', ← hy', ← hz', ← hw']

/-! ### Whole texts -/

theorem decode_group (hx : x < 64) (hy : y < 64) (hz : z < 64) (hw : w < 64) (cs : List Char) :
    decode (letter x :: letter y :: letter z :: letter w :: cs) =
      (decode cs).map (group x y z w ++ ·) := by
  cases cs with
  | nil => simp [decode, lastGroup_three hx hy hz hw]
  | cons c cs =>
    rw [decode]
    · simp only [value?_letter, hx, hy, hz, hw]
      cases decode (c :: cs) <;> rfl
    · simp

theorem encode_group (hx : x < 64) (hy : y < 64) (hz : z < 64) (hw : w < 64) (bs : Bytes) :
    encode (group x y z w ++ bs) =
      letter x :: letter y :: letter z :: letter w :: encode bs := by
  obtain ⟨hx', hy', hz', hw'⟩ := (group_eq_iff hx hy hz hw).1 rfl
  simp only [group, List.cons_append, List.nil_append, encode, ← hx', ← hy', ← hz', ← hw']

theorem decode_encode (bs : Bytes) : decode (encode bs) = some bs := by
  fun_induction encode bs with
  | case1 => rfl
  | case2 a =>
    have ha := a.toNat_lt
    have hx : a.toNat / 4 < 64 := by omega
    have hy : a.toNat % 4 * 16 < 64 := by omega
    obtain ⟨hbits, hbyte⟩ := (byteAt_eq_iff hx hy).2 ⟨rfl, rfl⟩
    rw [decode, lastGroup_one hx hy, if_pos ⟨rfl, hbits⟩, hbyte]
  | case3 a b =>
    have ha := a.toNat_lt
    have hb := b.toNat_lt
    have hx : a.toNat / 4 < 64 := by omega
    have hy : a.toNat % 4 * 16 + b.toNat / 16 < 64 := by omega
    have hz : b.toNat % 16 * 4 < 64 := by omega
    obtain ⟨hbits, hbytes⟩ := (pairOf_eq_iff hx hy hz).2 ⟨rfl, rfl, rfl⟩
    rw [decode, lastGroup_two hx hy hz, if_pos hbits, hbytes]
  | case4 a b c bs ih =>
    have ha := a.toNat_lt
    have hb := b.toNat_lt
    have hc := c.toNat_lt
    have hx : a.toNat / 4 < 64 := by omega
    have hy : a.toNat % 4 * 16 + b.toNat / 16 < 64 := by omega
    have hz : b.toNat % 16 * 4 + c.toNat / 64 < 64 := by omega
    have hw : c.toNat % 64 < 64 := by omega
    rw [decode_group hx hy hz hw, ih, (group_eq_iff hx hy hz hw).2 ⟨rfl, rfl, rfl, rfl⟩]
    rfl

theorem eq_encode_of_decode {cs : List Char} {bs : Bytes} (h : decode cs = some bs) :
    cs = encode bs := by
  fun_induction decode cs generalizing bs with
  | case1 =>
    cases h
    rfl
  | case2 a b c d => exact eq_encode_of_lastGroup h
  | case3 a b c d cs hne ih =>
    obtain ⟨x, hxa, h⟩ := Option.bind_eq_some_iff.1 h
    obtain ⟨y, hyb, h⟩ := Option.bind_eq_some_iff.1 h
    obtain ⟨z, hzc, h⟩ := Option.bind_eq_some_iff.1 h
    obtain ⟨w, hwd, h⟩ := Option.bind_eq_some_iff.1 h
    obtain ⟨rest, hrest, hbytes⟩ := Option.bind_eq_some_iff.1 h
    obtain ⟨hx, ha⟩ := letter_of_value? hxa
    obtain ⟨hy, hb⟩ := letter_of_value? hyb
    obtain ⟨hz, hc⟩ := letter_of_value? hzc
    obtain ⟨hw, hd⟩ := letter_of_value? hwd
    obtain rfl : group x y z w ++ rest = bs := Option.some.inj hbytes
    rw [encode_group hx hy hz hw, ← ih hrest, ha, hb, hc, hd]
  | case4 => cases h

/-- Each text of bytes has one written form, which is the only one that is read as them. -/
theorem decode_eq_some_iff {cs : List Char} {bs : Bytes} :
    decode cs = some bs ↔ cs = encode bs := by
  constructor
  · exact eq_encode_of_decode
  · intro h
    rw [h, decode_encode]

end WebDispatch.Text.Base64
