import Mathlib.Data.List.Basic
import WebDispatch.Text.Utf8

namespace WebDispatch.Text.Utf8

def IsTail (b : UInt8) : Prop :=
  0x80 ≤ b.toNat ∧ b.toNat ≤ 0xBF

/-- The characters, by their bytes and their code points. What would be too long for its code point,
or a surrogate, or above the last one, is no character. -/
inductive Spells : Bytes → Nat → Prop
  | one {a : UInt8} (ha : a.toNat < 0x80) : Spells [a] a.toNat
  | two {a b : UInt8} {n : Nat} (hn : n = (a.toNat - 0xC0) * 64 + (b.toNat - 0x80))
      (ha : 0xC2 ≤ a.toNat ∧ a.toNat < 0xE0) (hb : IsTail b) : Spells [a, b] n
  | three {a b c : UInt8} {n : Nat}
      (hn : n = ((a.toNat - 0xE0) * 64 + (b.toNat - 0x80)) * 64 + (c.toNat - 0x80))
      (ha : 0xE0 ≤ a.toNat ∧ a.toNat < 0xF0) (hb : IsTail b) (hc : IsTail c)
      (long : a.toNat = 0xE0 → 0xA0 ≤ b.toNat) (surrogate : a.toNat = 0xED → b.toNat ≤ 0x9F) :
      Spells [a, b, c] n
  | four {a b c d : UInt8} {n : Nat}
      (hn : n = (((a.toNat - 0xF0) * 64 + (b.toNat - 0x80)) * 64 + (c.toNat - 0x80)) * 64 +
        (d.toNat - 0x80))
      (ha : 0xF0 ≤ a.toNat ∧ a.toNat < 0xF5) (hb : IsTail b) (hc : IsTail c) (hd : IsTail d)
      (long : a.toNat = 0xF0 → 0x90 ≤ b.toNat) (above : a.toNat = 0xF4 → b.toNat ≤ 0x8F) :
      Spells [a, b, c, d] n

/-! ### Encoding -/

theorem toNat_ofNat_of_isValidChar {n : Nat} (h : n.isValidChar) : (Char.ofNat n).toNat = n := by
  rw [Char.ofNat, dif_pos h]
  rfl

theorem utf8EncodeChar_ofNat {n : Nat} (h : n.isValidChar) :
    String.utf8EncodeChar (.ofNat n) =
      if n ≤ 0x7F then [.ofNat n]
      else if n ≤ 0x7FF then [.ofNat (n / 64 % 32 + 0xC0), .ofNat (n % 64 + 0x80)]
      else if n ≤ 0xFFFF then
        [.ofNat (n / 4096 % 16 + 0xE0), .ofNat (n / 64 % 64 + 0x80), .ofNat (n % 64 + 0x80)]
      else [.ofNat (n / 262144 % 8 + 0xF0), .ofNat (n / 4096 % 64 + 0x80),
        .ofNat (n / 64 % 64 + 0x80), .ofNat (n % 64 + 0x80)] := by
  have hv : (Char.ofNat n).val.toNat = n := toNat_ofNat_of_isValidChar h
  rw [String.utf8EncodeChar, hv]

theorem Spells.utf8EncodeChar {front : Bytes} {n : Nat} (h : Spells front n) :
    n.isValidChar ∧ String.utf8EncodeChar (.ofNat n) = front := by
  cases h with
  | @one a ha =>
    have hv : a.toNat.isValidChar := .inl (by omega)
    refine ⟨hv, ?_⟩
    rw [utf8EncodeChar_ofNat hv, if_pos (by omega), UInt8.ofNat_toNat]
  | @two a b n hn ha hb =>
    unfold IsTail at hb
    have hsize : 0x7F < n ∧ n ≤ 0x7FF := by omega
    have hv : n.isValidChar := .inl (by omega)
    have ha' : n / 64 % 32 + 0xC0 = a.toNat := by omega
    have hb' : n % 64 + 0x80 = b.toNat := by omega
    refine ⟨hv, ?_⟩
    rw [utf8EncodeChar_ofNat hv, if_neg (by omega), if_pos hsize.2, ha', hb', UInt8.ofNat_toNat,
      UInt8.ofNat_toNat]
  | @three a b c n hn ha hb hc long surrogate =>
    unfold IsTail at hb hc
    have hsize : 0x7FF < n ∧ n ≤ 0xFFFF := by omega
    have hv : n.isValidChar := by
      by_cases h : n < 0xD800
      · exact .inl h
      · have hgt : 0xDFFF < n := by omega
        exact .inr ⟨hgt, by omega⟩
    have ha' : n / 4096 % 16 + 0xE0 = a.toNat := by omega
    have hb' : n / 64 % 64 + 0x80 = b.toNat := by omega
    have hc' : n % 64 + 0x80 = c.toNat := by omega
    refine ⟨hv, ?_⟩
    rw [utf8EncodeChar_ofNat hv, if_neg (by omega), if_neg (by omega), if_pos hsize.2, ha', hb',
      hc', UInt8.ofNat_toNat, UInt8.ofNat_toNat, UInt8.ofNat_toNat]
  | @four a b c d n hn ha hb hc hd long above =>
    unfold IsTail at hb hc hd
    have hsize : 0xFFFF < n ∧ n < 0x110000 := by omega
    have hv : n.isValidChar := .inr ⟨by omega, hsize.2⟩
    have ha' : n / 262144 % 8 + 0xF0 = a.toNat := by omega
    have hb' : n / 4096 % 64 + 0x80 = b.toNat := by omega
    have hc' : n / 64 % 64 + 0x80 = c.toNat := by omega
    have hd' : n % 64 + 0x80 = d.toNat := by omega
    refine ⟨hv, ?_⟩
    rw [utf8EncodeChar_ofNat hv, if_neg (by omega), if_neg (by omega), if_neg (by omega), ha', hb',
      hc', hd', UInt8.ofNat_toNat, UInt8.ofNat_toNat, UInt8.ofNat_toNat, UInt8.ofNat_toNat]

theorem toNat_ofNat_of_lt {n : Nat} (h : n < 0x100) : (UInt8.ofNat n).toNat = n := by
  rw [UInt8.toNat_ofNat']
  exact Nat.mod_eq_of_lt h

theorem toNat_tail (m : Nat) : (UInt8.ofNat (m % 64 + 0x80)).toNat = m % 64 + 0x80 :=
  toNat_ofNat_of_lt (by omega)

theorem isTail_ofNat (m : Nat) : IsTail (.ofNat (m % 64 + 0x80)) := by
  rw [IsTail, toNat_tail]
  omega

theorem spells_utf8EncodeChar {n : Nat} (h : n.isValidChar) :
    Spells (String.utf8EncodeChar (.ofNat n)) n := by
  have hmax : n < 0x110000 ∧ (n < 0xD800 ∨ 0xDFFF < n) := by
    rcases h with h | h
    · exact ⟨by omega, .inl h⟩
    · exact ⟨h.2, .inr h.1⟩
  rw [utf8EncodeChar_ofNat h]
  split_ifs with h1 h2 h3
  · have ha : (UInt8.ofNat n).toNat = n := toNat_ofNat_of_lt (by omega)
    have hs := Spells.one (a := .ofNat n) (by omega)
    rwa [ha] at hs
  · have ha : (UInt8.ofNat (n / 64 % 32 + 0xC0)).toNat = n / 64 % 32 + 0xC0 :=
      toNat_ofNat_of_lt (by omega)
    have hb := toNat_tail n
    exact .two (by omega) (by omega) (isTail_ofNat n)
  · have ha : (UInt8.ofNat (n / 4096 % 16 + 0xE0)).toNat = n / 4096 % 16 + 0xE0 :=
      toNat_ofNat_of_lt (by omega)
    have hb := toNat_tail (n / 64)
    have hc := toNat_tail n
    exact .three (by omega) (by omega) (isTail_ofNat (n / 64)) (isTail_ofNat n) (by omega)
      (by omega)
  · have ha : (UInt8.ofNat (n / 262144 % 8 + 0xF0)).toNat = n / 262144 % 8 + 0xF0 :=
      toNat_ofNat_of_lt (by omega)
    have hb := toNat_tail (n / 4096)
    have hc := toNat_tail (n / 64)
    have hd := toNat_tail n
    exact .four (by omega) (by omega) (isTail_ofNat (n / 4096)) (isTail_ofNat (n / 64))
      (isTail_ofNat n) (by omega) (by omega)

/-! ### Reading -/

namespace Partway

def ofTwo (b : Nat) : Partway :=
  ⟨b - 0xC0, 1, 1, 0x80, 0xBF⟩

def ofThree (b : Nat) : Partway :=
  ⟨b - 0xE0, 1, 2, if b = 0xE0 then 0xA0 else 0x80, if b = 0xED then 0x9F else 0xBF⟩

def ofFour (b : Nat) : Partway :=
  ⟨b - 0xF0, 1, 3, if b = 0xF0 then 0x90 else 0x80, if b = 0xF4 then 0x8F else 0xBF⟩

/-- Inside a character, one byte on. -/
def next (p : Partway) (b : UInt8) : Partway :=
  { bits := p.bits * 64 + (b.toNat - 0x80), taken := p.taken + 1, owed := p.owed - 1 }

end Partway

theorem first_eq (b : Nat) : first b =
    if b < 0x80 then (some (.char (.ofNat b)), none)
    else if b < 0xC2 then (some (.broken 1), none)
    else if b < 0xE0 then (none, some (.ofTwo b))
    else if b < 0xF0 then (none, some (.ofThree b))
    else if b < 0xF5 then (none, some (.ofFour b))
    else (some (.broken 1), none) := by
  unfold first Partway.ofTwo Partway.ofThree Partway.ofFour
  grind

theorem pieces_none_cons (b : UInt8) (bs : Bytes) : pieces none (b :: bs) =
    if b.toNat < 0x80 then .char (.ofNat b.toNat) :: pieces none bs
    else if b.toNat < 0xC2 then .broken 1 :: pieces none bs
    else if b.toNat < 0xE0 then pieces (some (.ofTwo b.toNat)) bs
    else if b.toNat < 0xF0 then pieces (some (.ofThree b.toNat)) bs
    else if b.toNat < 0xF5 then pieces (some (.ofFour b.toNat)) bs
    else .broken 1 :: pieces none bs := by
  rw [pieces, first_eq]
  split_ifs <;> rfl

theorem pieces_next {p : Partway} {b : UInt8} (owed : 1 < p.owed) (low : p.low ≤ b.toNat)
    (high : b.toNat ≤ p.high) (bs : Bytes) :
    pieces (some p) (b :: bs) = pieces (some (p.next b)) bs := by
  rw [pieces, if_pos ⟨low, high⟩]
  exact if_neg (Nat.not_le.2 owed)

theorem pieces_last {p : Partway} {b : UInt8} (owed : p.owed ≤ 1) (low : p.low ≤ b.toNat)
    (high : b.toNat ≤ p.high) (bs : Bytes) :
    pieces (some p) (b :: bs) = .char (.ofNat (p.next b).bits) :: pieces none bs := by
  rw [pieces, if_pos ⟨low, high⟩]
  exact if_pos owed

/-- A character that is read to its end goes on with a byte of the range that its state allows. -/
theorem exists_byte_of_pieces {p : Partway} {bs : Bytes} {c : Char} {ps : List Piece}
    (h : pieces (some p) bs = .char c :: ps) :
    ∃ b rest, bs = b :: rest ∧ p.low ≤ b.toNat ∧ b.toNat ≤ p.high ∧
      (p.owed ≤ 1 → c = .ofNat (p.next b).bits ∧ ps = pieces none rest) ∧
      (1 < p.owed → pieces (some (p.next b)) rest = .char c :: ps) := by
  cases bs with
  | nil => simp [pieces] at h
  | cons b rest =>
    by_cases within : p.low ≤ b.toNat ∧ b.toNat ≤ p.high
    · refine ⟨b, rest, rfl, within.1, within.2, fun owed ↦ ?_, fun owed ↦ ?_⟩
      · rw [pieces_last owed within.1 within.2] at h
        obtain ⟨hc, hps⟩ := List.cons.inj h
        exact ⟨(Piece.char.inj hc).symm, hps.symm⟩
      · rwa [pieces_next owed within.1 within.2] at h
    · simp [pieces, within] at h

theorem pieces_of_spells {front : Bytes} {n : Nat} (h : Spells front n) (bs : Bytes) :
    pieces none (front ++ bs) = .char (.ofNat n) :: pieces none bs := by
  cases h with
  | @one a ha => rw [List.cons_append, pieces_none_cons, if_pos ha, List.nil_append]
  | @two a b n hn ha hb =>
    have hstart : pieces none (a :: b :: bs) = pieces (some (.ofTwo a.toNat)) (b :: bs) := by
      rw [pieces_none_cons, if_neg (by omega), if_neg (by omega), if_pos ha.2]
    rw [hn]
    exact hstart.trans (pieces_last (Nat.le_refl 1) hb.1 hb.2 bs)
  | @three a b c n hn ha hb hc long surrogate =>
    have hstart : pieces none (a :: b :: c :: bs) =
        pieces (some (.ofThree a.toNat)) (b :: c :: bs) := by
      rw [pieces_none_cons, if_neg (by omega), if_neg (by omega), if_neg (by omega), if_pos ha.2]
    unfold IsTail at hb
    have hlow : (if a.toNat = 0xE0 then 0xA0 else 0x80) ≤ b.toNat := by split_ifs <;> omega
    have hhigh : b.toNat ≤ if a.toNat = 0xED then 0x9F else 0xBF := by split_ifs <;> omega
    have hnext := pieces_next (p := .ofThree a.toNat) (Nat.lt_succ_self 1) hlow hhigh (c :: bs)
    rw [hn]
    exact (hstart.trans hnext).trans (pieces_last (Nat.le_refl 1) hc.1 hc.2 bs)
  | @four a b c d n hn ha hb hc hd long above =>
    have hstart : pieces none (a :: b :: c :: d :: bs) =
        pieces (some (.ofFour a.toNat)) (b :: c :: d :: bs) := by
      rw [pieces_none_cons, if_neg (by omega), if_neg (by omega), if_neg (by omega),
        if_neg (by omega), if_pos ha.2]
    unfold IsTail at hb
    have hlow : (if a.toNat = 0xF0 then 0x90 else 0x80) ≤ b.toNat := by split_ifs <;> omega
    have hhigh : b.toNat ≤ if a.toNat = 0xF4 then 0x8F else 0xBF := by split_ifs <;> omega
    have hnext := pieces_next (p := .ofFour a.toNat) (Nat.lt_of_sub_eq_succ rfl) hlow hhigh
      (c :: d :: bs)
    have hnext' := pieces_next (p := (Partway.ofFour a.toNat).next b) (Nat.lt_succ_self 1) hc.1 hc.2
      (d :: bs)
    rw [hn]
    exact ((hstart.trans hnext).trans hnext').trans (pieces_last (Nat.le_refl 1) hd.1 hd.2 bs)

theorem spells_of_pieces {bs : Bytes} {c : Char} {ps : List Piece}
    (h : pieces none bs = .char c :: ps) :
    ∃ front n rest, bs = front ++ rest ∧ Spells front n ∧ c = .ofNat n ∧ ps = pieces none rest := by
  cases bs with
  | nil => cases h
  | cons a bs =>
    rw [pieces_none_cons] at h
    split_ifs at h with h1 h2 h3 h4 h5
    · obtain ⟨hc, hps⟩ := List.cons.inj h
      exact ⟨[a], a.toNat, bs, rfl, .one h1, (Piece.char.inj hc).symm, hps.symm⟩
    · cases h
    · obtain ⟨b, rest, rfl, hlow, hhigh, hlast, -⟩ := exists_byte_of_pieces h
      obtain ⟨hc, hps⟩ := hlast (Nat.le_refl 1)
      exact ⟨[a, b], _, rest, rfl, .two rfl ⟨by omega, h3⟩ ⟨hlow, hhigh⟩, hc, hps⟩
    · obtain ⟨b, rest, rfl, hlow, hhigh, -, hnext⟩ := exists_byte_of_pieces h
      obtain ⟨c', rest, rfl, hlow', hhigh', hlast, -⟩ :=
        exists_byte_of_pieces (hnext (Nat.lt_succ_self 1))
      obtain ⟨hc, hps⟩ := hlast (Nat.le_refl 1)
      -- The range of the second byte is narrower behind some first bytes.
      dsimp only [Partway.ofThree] at hlow hhigh
      have hb : IsTail b := by
        unfold IsTail
        split_ifs at hlow hhigh <;> omega
      have long : a.toNat = 0xE0 → 0xA0 ≤ b.toNat := fun ha ↦ by rwa [if_pos ha] at hlow
      have surrogate : a.toNat = 0xED → b.toNat ≤ 0x9F := fun ha ↦ by rwa [if_pos ha] at hhigh
      exact ⟨[a, b, c'], _, rest, rfl, .three rfl ⟨by omega, h4⟩ hb ⟨hlow', hhigh'⟩ long surrogate,
        hc, hps⟩
    · obtain ⟨b, rest, rfl, hlow, hhigh, -, hnext⟩ := exists_byte_of_pieces h
      obtain ⟨c', rest, rfl, hlow', hhigh', -, hnext'⟩ :=
        exists_byte_of_pieces (hnext (Nat.lt_of_sub_eq_succ rfl))
      obtain ⟨d, rest, rfl, hlow'', hhigh'', hlast, -⟩ :=
        exists_byte_of_pieces (hnext' (Nat.lt_succ_self 1))
      obtain ⟨hc, hps⟩ := hlast (Nat.le_refl 1)
      dsimp only [Partway.ofFour] at hlow hhigh
      have hb : IsTail b := by
        unfold IsTail
        split_ifs at hlow hhigh <;> omega
      have long : a.toNat = 0xF0 → 0x90 ≤ b.toNat := fun ha ↦ by rwa [if_pos ha] at hlow
      have above : a.toNat = 0xF4 → b.toNat ≤ 0x8F := fun ha ↦ by rwa [if_pos ha] at hhigh
      exact ⟨[a, b, c', d], _, rest, rfl, .four rfl ⟨by omega, h5⟩ hb ⟨hlow', hhigh'⟩
        ⟨hlow'', hhigh''⟩ long above, hc, hps⟩
    · cases h

/-! ### Whole texts -/

theorem pieces_some_ne_nil (p : Partway) (bs : Bytes) : pieces (some p) bs ≠ [] := by
  induction bs generalizing p with
  | nil => simp [pieces]
  | cons b bs ih =>
    rw [pieces]
    split
    · split
      · exact List.cons_ne_nil _ _
      · exact ih _
    · exact List.cons_ne_nil _ _

theorem pieces_none_eq_nil_iff {bs : Bytes} : pieces none bs = [] ↔ bs = [] := by
  constructor
  · intro h
    cases bs with
    | nil => rfl
    | cons b bs =>
      rw [pieces_none_cons] at h
      split_ifs at h <;> exact absurd h (by simp [pieces_some_ne_nil])
  · rintro rfl
    rfl

theorem pieces_eq_char_cons_iff {bs : Bytes} {c : Char} {ps : List Piece} :
    pieces none bs = .char c :: ps ↔
      ∃ rest, bs = String.utf8EncodeChar c ++ rest ∧ ps = pieces none rest := by
  constructor
  · intro h
    obtain ⟨front, n, rest, rfl, hspells, rfl, hps⟩ := spells_of_pieces h
    exact ⟨rest, by rw [hspells.utf8EncodeChar.2], hps⟩
  · rintro ⟨rest, rfl, rfl⟩
    have hvalid : c.toNat.isValidChar := c.valid
    have hspells := spells_utf8EncodeChar hvalid
    rw [Char.ofNat_toNat] at hspells
    rw [pieces_of_spells hspells, Char.ofNat_toNat]

theorem pieces_eq_map_char_iff {bs : Bytes} {cs : List Char} :
    pieces none bs = cs.map .char ↔ bs = cs.flatMap String.utf8EncodeChar := by
  induction cs generalizing bs with
  | nil => exact pieces_none_eq_nil_iff
  | cons c cs ih =>
    rw [List.map_cons, pieces_eq_char_cons_iff, List.flatMap_cons]
    constructor
    · rintro ⟨rest, rfl, h⟩
      rw [ih.1 h.symm]
    · rintro rfl
      exact ⟨_, rfl, (ih.2 rfl).symm⟩

theorem strict_map_char (cs : List Char) (index : Nat) : strict index (cs.map .char) = .ok cs := by
  induction cs generalizing index with
  | nil => rfl
  | cons c cs ih => simp [strict, ih]

theorem eq_map_char_of_strict {ps : List Piece} {cs : List Char} {index : Nat}
    (h : strict index ps = .ok cs) : ps = cs.map .char := by
  induction ps generalizing cs index with
  | nil =>
    cases h
    rfl
  | cons p ps ih =>
    cases p with
    | broken n => simp [strict] at h
    | cutOff n => simp [strict] at h
    | char c =>
      rw [strict] at h
      cases hrest : strict (index + c.utf8Size) ps with
      | error f => simp [hrest] at h
      | ok cs' =>
        rw [hrest] at h
        cases h
        rw [List.map_cons, ← ih hrest]

/-- Decoding reads a text from its bytes, and from no others. -/
theorem decode?_eq_some_iff {bs : Bytes} {s : String} : decode? bs = some s ↔ bs = encode s := by
  constructor
  · intro h
    cases hstrict : strict 0 (pieces none bs) with
    | error f => simp [decode?, decode, hstrict, Except.map, Except.toOption] at h
    | ok cs =>
      obtain rfl : String.ofList cs = s := by
        simpa [decode?, decode, hstrict, Except.map, Except.toOption] using h
      rw [encode, String.toList_ofList]
      exact pieces_eq_map_char_iff.1 (eq_map_char_of_strict hstrict)
  · intro h
    have hpieces : pieces none bs = s.toList.map .char := pieces_eq_map_char_iff.2 h
    rw [decode?, decode, hpieces, strict_map_char]
    simp [Except.map, Except.toOption]

theorem decode?_eq_none_iff {bs : Bytes} : decode? bs = none ↔ ∀ s, bs ≠ encode s := by
  rw [Option.eq_none_iff_forall_ne_some]
  exact forall_congr' fun s ↦ not_congr decode?_eq_some_iff

end WebDispatch.Text.Utf8
