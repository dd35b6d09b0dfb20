import Mathlib.Data.List.Basic
import WebDispatch.Proofs.Utf8Decoding
import WebDispatch.Text.Percent

namespace WebDispatch.Text.Percent

/-! ### Decoding -/

def StartsEscape (bs : Bytes) : Prop :=
  ∃ b c rest x y, bs = percent :: b :: c :: rest ∧ Hex.digit? b.toNat = some x ∧
    Hex.digit? c.toNat = some y

/-- Decoded bytes: one for each percent sign with two digits, and all others as they stand. -/
inductive Decodes : Bytes → Bytes → Prop
  | nil : Decodes [] []
  | escape {b c : UInt8} {x y : Nat} {bs out : Bytes} (high : Hex.digit? b.toNat = some x)
      (low : Hex.digit? c.toNat = some y) (rest : Decodes bs out) :
      Decodes (percent :: b :: c :: bs) (.ofNat (16 * x + y) :: out)
  | plain {a : UInt8} {bs out : Bytes} (h : ¬ StartsEscape (a :: bs)) (rest : Decodes bs out) :
      Decodes (a :: bs) (a :: out)

theorem not_startsEscape_of_ne {a : UInt8} (h : a ≠ percent) (bs : Bytes) :
    ¬ StartsEscape (a :: bs) := by
  rintro ⟨b, c, rest, x, y, hbs, -⟩
  exact h (List.cons.inj hbs).1

theorem not_startsEscape_of_length_le {bs : Bytes} (h : bs.length ≤ 2) : ¬ StartsEscape bs := by
  rintro ⟨b, c, rest, x, y, rfl, -⟩
  simp only [List.length_cons] at h
  omega

theorem decode_escape {b c : UInt8} {x y : Nat} (high : Hex.digit? b.toNat = some x)
    (low : Hex.digit? c.toNat = some y) (bs : Bytes) :
    decode (percent :: b :: c :: bs) = .ofNat (16 * x + y) :: decode bs := by
  rw [decode, if_pos rfl, high, low]

theorem decode_plain {a : UInt8} {bs : Bytes} (h : ¬ StartsEscape (a :: bs)) :
    decode (a :: bs) = a :: decode bs := by
  match bs with
  | [] => rfl
  | [b] => rfl
  | b :: c :: bs =>
    rw [decode]
    split
    · rename_i ha
      split
      · rename_i x y hx hy
        exact absurd ⟨b, c, bs, x, y, by rw [ha], hx, hy⟩ h
      · rfl
    · rfl

theorem Decodes.decode_eq {bs out : Bytes} (h : Decodes bs out) : decode bs = out := by
  induction h with
  | nil => rfl
  | escape high low rest ih => rw [decode_escape high low, ih]
  | plain h rest ih => rw [decode_plain h, ih]

theorem decodes_decode (bs : Bytes) : Decodes bs (decode bs) := by
  fun_induction decode bs with
  | case1 => exact .nil
  | case2 a => exact .plain (not_startsEscape_of_length_le (by simp)) .nil
  | case3 a b =>
    exact .plain (not_startsEscape_of_length_le (by simp))
      (.plain (not_startsEscape_of_length_le (by simp)) .nil)
  | case4 b c bs x y hx hy ih => exact .escape hy hx ih
  | case5 b c bs hnone ih =>
    refine .plain ?_ ih
    rintro ⟨b', c', rest, x, y, hbs, hx, hy⟩
    simp only [List.cons.injEq] at hbs
    obtain ⟨-, rfl, rfl, -⟩ := hbs
    exact hnone x y hx hy
  | case6 a b c bs ha ih => exact .plain (not_startsEscape_of_ne ha _) ih

theorem decodes_iff {bs out : Bytes} : Decodes bs out ↔ decode bs = out :=
  ⟨Decodes.decode_eq, fun h ↦ h ▸ decodes_decode bs⟩

/-- What a text is read as: the text of its decoded bytes, or itself where these are no UTF-8. -/
inductive Reads (s : String) : String → Prop
  | decoded {v : String} (h : Decodes (Utf8.encode s) (Utf8.encode v)) : Reads s v
  | kept (h : ∀ v, ¬ Decodes (Utf8.encode s) (Utf8.encode v)) : Reads s s

theorem decodeText_of_decodes {s v : String} (h : Decodes (Utf8.encode s) (Utf8.encode v)) :
    decodeText s = v := by
  rw [decodeText, Utf8.decode?_eq_some_iff.2 h.decode_eq, Option.getD_some]

theorem decodeText_eq_iff {s v : String} : decodeText s = v ↔ Reads s v := by
  constructor
  · rintro rfl
    rw [decodeText]
    cases hv : Utf8.decode? (decode (Utf8.encode s)) with
    | some v => exact .decoded (decodes_iff.2 (Utf8.decode?_eq_some_iff.1 hv))
    | none => exact .kept fun v hdecodes ↦ Utf8.decode?_eq_none_iff.1 hv v hdecodes.decode_eq
  · intro h
    cases h with
    | decoded h => exact decodeText_of_decodes h
    | kept h =>
      have hnone : Utf8.decode? (decode (Utf8.encode s)) = none :=
        Utf8.decode?_eq_none_iff.2 fun v hv ↦ h v (decodes_iff.2 hv)
      rw [decodeText, hnone, Option.getD_none]

/-! ### Encoding -/

def IsDigit (n : Nat) (c : Char) : Prop :=
  c = Hex.lower n ∨ c = Hex.upper n

/-- A text that stands for bytes: letters and digits stand for themselves, and any byte may be
written as a percent sign with two digits. -/
inductive Escapes : Bytes → List Char → Prop
  | nil : Escapes [] []
  | plain {b : UInt8} {bs : Bytes} {cs : List Char} (h : isAlphanumeric b = true)
      (rest : Escapes bs cs) : Escapes (b :: bs) (.ofNat b.toNat :: cs)
  | escaped {b : UInt8} {bs : Bytes} {high low : Char} {cs : List Char}
      (hhigh : IsDigit (b.toNat / 16) high) (hlow : IsDigit (b.toNat % 16) low)
      (rest : Escapes bs cs) : Escapes (b :: bs) ('%' :: high :: low :: cs)

theorem utf8EncodeChar_ascii {c : Char} (h : c.toNat < 0x80) :
    String.utf8EncodeChar c = [.ofNat c.toNat] := by
  have hc := Utf8.utf8EncodeChar_ofNat (n := c.toNat) c.valid
  rwa [Char.ofNat_toNat, if_pos (by omega)] at hc

theorem IsDigit.toNat_lt {n : Nat} (hn : n < 16) {c : Char} (h : IsDigit n c) : c.toNat < 0x80 := by
  have hascii : ∀ n < 16, (Hex.lower n).toNat < 0x80 ∧ (Hex.upper n).toNat < 0x80 := by decide
  rcases h with rfl | rfl
  · exact (hascii n hn).1
  · exact (hascii n hn).2

theorem IsDigit.digit? {n : Nat} (hn : n < 16) {c : Char} (h : IsDigit n c) :
    Hex.digit? c.toNat = some n := by
  rcases h with rfl | rfl
  · exact Hex.digit?_lower n hn
  · exact Hex.digit?_upper n hn

theorem IsDigit.ne_slash {n : Nat} (hn : n < 16) {c : Char} (h : IsDigit n c) : '/' ≠ c := by
  have hslash : ∀ n < 16, '/' ≠ Hex.lower n ∧ '/' ≠ Hex.upper n := by decide
  rcases h with rfl | rfl
  · exact (hslash n hn).1
  · exact (hslash n hn).2

theorem IsDigit.utf8EncodeChar {n : Nat} (hn : n < 16) {c : Char} (h : IsDigit n c) :
    ∃ b : UInt8, String.utf8EncodeChar c = [b] ∧ Hex.digit? b.toNat = some n := by
  have hlt := h.toNat_lt hn
  refine ⟨.ofNat c.toNat, utf8EncodeChar_ascii hlt, ?_⟩
  rw [Utf8.toNat_ofNat_of_lt (by omega)]
  exact h.digit? hn

theorem toNat_of_isAlphanumeric {b : UInt8} (h : isAlphanumeric b = true) :
    0x30 ≤ b.toNat ∧ b.toNat < 0x80 := by
  simp only [isAlphanumeric, Bool.or_eq_true, Bool.and_eq_true, decide_eq_true_eq,
    UInt8.le_iff_toNat_le, UInt8.reduceToNat] at h
  omega

theorem toNat_ofNat_of_isAlphanumeric {b : UInt8} (h : isAlphanumeric b = true) :
    (Char.ofNat b.toNat).toNat = b.toNat := by
  have hlt := (toNat_of_isAlphanumeric h).2
  exact Utf8.toNat_ofNat_of_isValidChar (.inl (by omega))

theorem Escapes.decodes {bs : Bytes} {cs : List Char} (h : Escapes bs cs) :
    Decodes (cs.flatMap String.utf8EncodeChar) bs := by
  induction h with
  | nil => exact .nil
  | @plain b bs cs hb rest ih =>
    obtain ⟨hlow, hhigh⟩ := toNat_of_isAlphanumeric hb
    have htoNat := toNat_ofNat_of_isAlphanumeric hb
    have hne : b ≠ percent := by
      rintro rfl
      simp [percent] at hlow
    rw [List.flatMap_cons, utf8EncodeChar_ascii (by omega), htoNat, UInt8.ofNat_toNat]
    exact .plain (not_startsEscape_of_ne hne _) ih
  | @escaped b bs high low cs hhigh hlow rest ih =>
    -- Both digits are in ASCII, so each is written in one byte.
    have hb := b.toNat_lt
    obtain ⟨x, hx, hxdigit⟩ := hhigh.utf8EncodeChar (by omega)
    obtain ⟨y, hy, hydigit⟩ := hlow.utf8EncodeChar (by omega)
    have hdecodes := Decodes.escape hxdigit hydigit ih
    rw [show 16 * (b.toNat / 16) + b.toNat % 16 = b.toNat by omega, UInt8.ofNat_toNat] at hdecodes
    rw [List.flatMap_cons, List.flatMap_cons, List.flatMap_cons, hx, hy]
    exact hdecodes

theorem Escapes.slash_not_mem {bs : Bytes} {cs : List Char} (h : Escapes bs cs) : '/' ∉ cs := by
  induction h with
  | nil => exact List.not_mem_nil
  | @plain b bs cs hb rest ih =>
    have hne : '/' ≠ Char.ofNat b.toNat := by
      intro he
      have hslash : ('/' : Char).toNat = b.toNat := by rw [he, toNat_ofNat_of_isAlphanumeric hb]
      have hlow := (toNat_of_isAlphanumeric hb).1
      rw [← hslash] at hlow
      exact absurd hlow (by decide)
    simp [hne, ih]
  | @escaped b bs high low cs hhigh hlow rest ih =>
    have hb := b.toNat_lt
    simp [hhigh.ne_slash (by omega), hlow.ne_slash (by omega), ih]

theorem escapes_encode {digit : Nat → Char} (h : ∀ n, IsDigit n (digit n)) (s : String) :
    Escapes (Utf8.encode s) (encode digit s).toList := by
  rw [encode, String.toList_ofList]
  induction Utf8.encode s with
  | nil => exact .nil
  | cons b bs ih =>
    rw [List.flatMap_cons, encodeByte]
    cases hb : isAlphanumeric b with
    | true => exact .plain hb ih
    | false => exact .escaped (h _) (h _) ih

theorem decodeText_of_escapes {v s : String} (h : Escapes (Utf8.encode v) s.toList) :
    decodeText s = v :=
  decodeText_of_decodes h.decodes

end WebDispatch.Text.Percent
