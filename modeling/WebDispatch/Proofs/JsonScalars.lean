import Mathlib.Data.List.TakeWhile
import Mathlib.Data.Option.Basic
import WebDispatch.Json.Grammar
import WebDispatch.Json.Parser

namespace WebDispatch.Json.Grammar

/-! ### Blanks and digits -/

theorem isBlank_iff {c : Char} :
    Parser.isBlank c = true ↔ c = ' ' ∨ c = '\n' ∨ c = '\t' ∨ c = '\r' := by
  simp [Parser.isBlank, or_assoc]

theorem blank_nil : Blank [] :=
  fun _ hc ↦ nomatch hc

theorem exists_blank (cs : List Char) : ∃ b, Blank b ∧ cs = b ++ Parser.skipBlanks cs :=
  ⟨cs.takeWhile Parser.isBlank, fun _ hc ↦ isBlank_iff.1 (List.mem_takeWhile_imp hc),
    List.takeWhile_append_dropWhile.symm⟩

theorem skipBlanks_append {b cs : List Char} (hb : Blank b)
    (hcs : ∀ c ∈ cs.head?, Parser.isBlank c = false) : Parser.skipBlanks (b ++ cs) = cs := by
  rw [Parser.skipBlanks, List.dropWhile_append_of_pos fun c hc ↦ isBlank_iff.2 (hb c hc)]
  cases cs with
  | nil => rfl
  | cons c cs => rw [List.dropWhile_cons_of_neg (by simp [hcs c rfl])]

theorem skipBlanks_cons {b cs : List Char} {c : Char} (hb : Blank b)
    (hc : Parser.isBlank c = false) : Parser.skipBlanks (b ++ c :: cs) = c :: cs :=
  skipBlanks_append hb (by simpa using hc)

/-- What does not continue a run of digits. -/
def NoDigit (rest : List Char) : Prop :=
  ∀ c ∈ rest.head?, c.isDigit = false

theorem digits_takeWhile {cs : List Char} (h : (cs.takeWhile Char.isDigit).isEmpty = false) :
    Digits (cs.takeWhile Char.isDigit) :=
  ⟨List.isEmpty_eq_false_iff.1 h, fun _ hc ↦ List.mem_takeWhile_imp hc⟩

theorem Digits.takeWhile_append {w rest : List Char} (hw : Digits w) (hrest : NoDigit rest) :
    (w ++ rest).takeWhile Char.isDigit = w := by
  rw [List.takeWhile_append_of_pos hw.2]
  cases rest with
  | nil => simp
  | cons c rest => simp [hrest c rfl]

theorem Digits.dropWhile_append {w rest : List Char} (hw : Digits w) (hrest : NoDigit rest) :
    (w ++ rest).dropWhile Char.isDigit = rest := by
  rw [List.dropWhile_append_of_pos hw.2]
  cases rest with
  | nil => rfl
  | cons c rest => simp [hrest c rfl]

theorem Digits.exists_cons {w : List Char} (hw : Digits w) :
    ∃ c w', w = c :: w' ∧ c.isDigit = true := by
  obtain ⟨c, w', rfl⟩ := List.exists_cons_of_ne_nil hw.1
  exact ⟨c, w', rfl, hw.2 c List.mem_cons_self⟩

/-! ### Numbers -/

theorem wholeDigits_append {w rest : List Char} (hw : Whole w) (hrest : NoDigit rest) :
    Parser.wholeDigits (w ++ rest) = some (w, rest) := by
  obtain ⟨c, w', rfl, hc⟩ := hw.digits.exists_cons
  by_cases h0 : c = '0'
  · subst h0
    obtain rfl : w' = [] := by simpa using hw.leading rfl
    cases rest with
    | nil => rfl
    | cons d rest => simp [Parser.wholeDigits, hrest d rfl]
  · have htake := hw.digits.takeWhile_append hrest
    have hdrop := hw.digits.dropWhile_append hrest
    rw [Parser.wholeDigits]
    · simp only [htake, hdrop, List.isEmpty_cons, Bool.false_eq_true, if_false]
    · rintro cs ⟨⟩
      exact h0 rfl

theorem whole_of_wholeDigits {cs w rest : List Char} (h : Parser.wholeDigits cs = some (w, rest)) :
    Whole w ∧ cs = w ++ rest := by
  rw [Parser.wholeDigits.eq_def] at h
  split at h
  · rename_i cs
    split at h
    · cases h
    · cases h
      exact ⟨⟨⟨by simp, by simp⟩, fun _ ↦ rfl⟩, rfl⟩
  · rename_i hzero
    dsimp only at h
    split at h
    · cases h
    · rename_i hempty
      cases h
      have hdigits := digits_takeWhile (Bool.eq_false_iff.2 hempty)
      refine ⟨⟨hdigits, fun hhead ↦ ?_⟩, List.takeWhile_append_dropWhile.symm⟩
      cases cs with
      | nil => cases hhead
      | cons c cs =>
        by_cases hc : c.isDigit = true
        · rw [List.takeWhile_cons_of_pos hc] at hhead
          cases hhead
          exact absurd rfl (hzero cs)
        · rw [List.takeWhile_cons_of_neg hc] at hhead
          cases hhead

theorem power_append {q rest : List Char} {down : Bool} {k : Nat} (h : Power q down k)
    (hrest : NoDigit rest) : Parser.power (q ++ rest) = some (down, k, rest) := by
  cases h with
  | bare hw =>
    have htake := hw.takeWhile_append hrest
    have hdrop := hw.dropWhile_append hrest
    obtain ⟨c, w', rfl, hc⟩ := hw.exists_cons
    rw [Parser.power.eq_def]
    split
    rename_i down cs hsign
    split at hsign
    · rename_i hcons
      cases hcons
      cases hc
    · rename_i hcons
      cases hcons
      cases hc
    · cases hsign
      simp only [htake, hdrop, List.isEmpty_cons, Bool.false_eq_true, if_false]
  | plus hw =>
    simp [Parser.power, hw.takeWhile_append hrest, hw.dropWhile_append hrest, hw.1]
  | minus hw =>
    simp [Parser.power, hw.takeWhile_append hrest, hw.dropWhile_append hrest, hw.1]

theorem power_of_power {cs rest : List Char} {down : Bool} {k : Nat}
    (h : Parser.power cs = some (down, k, rest)) : ∃ q, Power q down k ∧ cs = q ++ rest := by
  rw [Parser.power.eq_def] at h
  split at h
  rename_i down' cs' hsign
  dsimp only at h
  split at h
  · cases h
  · rename_i hempty
    have hdigits := digits_takeWhile (Bool.eq_false_iff.2 hempty)
    cases h
    split at hsign <;> cases hsign
    · exact ⟨_, .plus hdigits, by simp⟩
    · exact ⟨_, .minus hdigits, by simp⟩
    · exact ⟨_, .bare hdigits, by simp⟩

/-- What does not continue a number. -/
def Ends (rest : List Char) : Prop :=
  ∀ c ∈ rest.head?, c.isDigit = false ∧ c ≠ '.' ∧ c ≠ 'e' ∧ c ≠ 'E'

theorem Ends.noDigit {rest : List Char} (h : Ends rest) : NoDigit rest :=
  fun c hc ↦ (h c hc).1

variable {negative down : Bool} {s : Significand} {n : Number} {rest : List Char} {k : Nat}

theorem scaled_append {q : List Char} (hq : Power q down k) (hrest : NoDigit rest)
    (hn : Number.scaled? negative s down k = some n) :
    Parser.scaled negative s (q ++ rest) = some (n, rest) := by
  simp [Parser.scaled, power_append hq hrest, hn]

theorem exists_power_of_scaled {cs : List Char} (h : Parser.scaled negative s cs = some (n, rest)) :
    ∃ q down k, Power q down k ∧ Number.scaled? negative s down k = some n ∧ cs = q ++ rest := by
  obtain ⟨⟨down, k, cs⟩, hpower, h⟩ := Option.bind_eq_some_iff.1 h
  obtain ⟨m, hm, h⟩ := Option.bind_eq_some_iff.1 h
  cases h
  obtain ⟨q, hq, rfl⟩ := power_of_power hpower
  exact ⟨q, down, k, hq, hm, rfl⟩

theorem decimal_of_ends (hrest : Ends rest) (hn : Number.ofDecimal? negative s = some n) :
    Parser.decimal negative s rest = some (n, rest) := by
  rw [Parser.decimal.eq_def]
  split
  · exact absurd rfl (hrest 'e' rfl).2.2.1
  · exact absurd rfl (hrest 'E' rfl).2.2.2
  · rw [hn, Option.map_some]

theorem decimal_append {p : List Char} {e : Char} (he : e = 'e' ∨ e = 'E') (hp : Power p down k)
    (hrest : NoDigit rest) (hn : Number.scaled? negative s down k = some n) :
    Parser.decimal negative s (e :: (p ++ rest)) = some (n, rest) := by
  rcases he with rfl | rfl <;> exact scaled_append hp hrest hn

theorem of_decimal {cs : List Char} (h : Parser.decimal negative s cs = some (n, rest)) :
    Number.ofDecimal? negative s = some n ∧ cs = rest ∨
      ∃ e p down k, (e = 'e' ∨ e = 'E') ∧ Power p down k ∧
        Number.scaled? negative s down k = some n ∧ cs = e :: (p ++ rest) := by
  rw [Parser.decimal.eq_def] at h
  split at h
  case h_1 | h_2 =>
    obtain ⟨p, down, k, hp, hn, rfl⟩ := exists_power_of_scaled h
    exact .inr ⟨_, p, down, k, by simp, hp, hn, rfl⟩
  · obtain ⟨m, hm, h⟩ := Option.map_eq_some_iff.1 h
    cases h
    exact .inl ⟨hm, rfl⟩

theorem noDigit_cons {c : Char} (h : c.isDigit = false) (cs : List Char) : NoDigit (c :: cs) := by
  simpa [NoDigit] using h

theorem noDigit_letter {e : Char} (he : e = 'e' ∨ e = 'E') (cs : List Char) : NoDigit (e :: cs) :=
  noDigit_cons (by rcases he with rfl | rfl <;> rfl) cs

theorem unsigned_whole {w : List Char} (hw : Whole w) (hrest : Ends rest)
    (hn : Number.ofWhole? negative (.ofWhole w) = some n) :
    Parser.unsigned negative (w ++ rest) = some (n, rest) := by
  rw [Parser.unsigned, wholeDigits_append hw hrest.noDigit, Option.bind_eq_bind, Option.bind_some]
  dsimp only
  split
  · exact absurd rfl (hrest '.' rfl).2.1
  · exact absurd rfl (hrest 'e' rfl).2.2.1
  · exact absurd rfl (hrest 'E' rfl).2.2.2
  · rw [hn, Option.map_some]

theorem unsigned_fraction {w f cs : List Char} (hw : Whole w) (hf : Digits f) (hcs : NoDigit cs) :
    Parser.unsigned negative (w ++ '.' :: (f ++ cs)) =
      Parser.decimal negative ((Significand.ofWhole w).withFraction f) cs := by
  rw [Parser.unsigned, wholeDigits_append hw (noDigit_cons rfl _), Option.bind_eq_bind,
    Option.bind_some]
  have hguard : (guard (!f.isEmpty) : Option Unit) = some () :=
    (Option.guard_eq_some' _).2 (by simpa using hf.1)
  simp only [hf.takeWhile_append hcs, hf.dropWhile_append hcs, hguard]
  rfl

theorem unsigned_power {d p : List Char} {e : Char} (hd : Decimal d s) (he : e = 'e' ∨ e = 'E')
    (hp : Power p down k) (hrest : NoDigit rest)
    (hn : Number.scaled? negative s down k = some n) :
    Parser.unsigned negative (d ++ e :: (p ++ rest)) = some (n, rest) := by
  cases hd with
  | whole hw =>
    rw [Parser.unsigned, wholeDigits_append hw (noDigit_letter he _), Option.bind_eq_bind,
      Option.bind_some]
    rcases he with rfl | rfl <;> exact scaled_append hp hrest hn
  | fraction hw hf =>
    rw [List.append_assoc, List.cons_append, unsigned_fraction hw hf (noDigit_letter he _)]
    exact decimal_append he hp hrest hn

theorem number_append_sign {sign cs : List Char} (hsign : Sign sign negative)
    (hcs : ∀ c ∈ cs.head?, c ≠ '-') :
    Parser.number (sign ++ cs) = Parser.unsigned negative cs := by
  cases hsign with
  | minus => rfl
  | none =>
    rw [List.nil_append, Parser.number.eq_def]
    split
    · exact absurd rfl (hcs '-' rfl)
    · rfl

theorem Decimal.exists_cons {d : List Char} (hd : Decimal d s) :
    ∃ c d', d = c :: d' ∧ c.isDigit = true := by
  cases hd with
  | whole hw => exact hw.digits.exists_cons
  | fraction hw hf =>
    obtain ⟨c, w', rfl, hc⟩ := hw.digits.exists_cons
    exact ⟨c, _, rfl, hc⟩

theorem Decimal.head?_ne {d : List Char} (hd : Decimal d s) (cs : List Char) :
    ∀ c ∈ (d ++ cs).head?, c ≠ '-' := by
  obtain ⟨e, d', rfl, he⟩ := hd.exists_cons
  rintro c ⟨⟩ rfl
  cases he

theorem Numeral.number_append {w : List Char} (h : Numeral w n) (hrest : Ends rest) :
    Parser.number (w ++ rest) = some (n, rest) := by
  cases h with
  | whole hsign hw hn =>
    rw [List.append_assoc, number_append_sign hsign ((Decimal.whole hw).head?_ne _)]
    exact unsigned_whole hw hrest hn
  | fraction hsign hw hf hn =>
    rw [List.append_assoc, List.append_assoc, number_append_sign hsign ((Decimal.whole hw).head?_ne _),
      List.cons_append, unsigned_fraction hw hf hrest.noDigit]
    exact decimal_of_ends hrest hn
  | power hsign hd he hp hn =>
    rw [List.append_assoc, List.append_assoc, number_append_sign hsign (hd.head?_ne _)]
    exact unsigned_power hd he hp hrest.noDigit hn

theorem exists_numeral_of_unsigned {cs sign : List Char} (hsign : Sign sign negative)
    (h : Parser.unsigned negative cs = some (n, rest)) :
    ∃ w, Numeral (sign ++ w) n ∧ cs = w ++ rest := by
  obtain ⟨⟨w, others⟩, hdigits, hread⟩ := Option.bind_eq_some_iff.1 h
  obtain ⟨hw, rfl⟩ := whole_of_wholeDigits hdigits
  dsimp only at hread
  split at hread
  · rename_i cs
    obtain ⟨_, hguard, hread⟩ := Option.bind_eq_some_iff.1 hread
    have hf : Digits (cs.takeWhile Char.isDigit) :=
      digits_takeWhile (by simpa using (Option.guard_eq_some' _).1 hguard)
    have hcs : cs = cs.takeWhile Char.isDigit ++ cs.dropWhile Char.isDigit :=
      List.takeWhile_append_dropWhile.symm
    rcases of_decimal hread with ⟨hn, hrest⟩ | ⟨e, p, down, k, he, hp, hn, hrest⟩
    · refine ⟨_, .fraction hsign hw hf hn, ?_⟩
      rw [List.append_assoc, List.cons_append, ← hrest, ← hcs]
    · refine ⟨_, .power hsign (.fraction hw hf) he hp hn, ?_⟩
      rw [List.append_assoc, List.append_assoc, List.cons_append, List.cons_append, ← hrest, ← hcs]
  case h_2 =>
    obtain ⟨p, down, k, hp, hn, rfl⟩ := exists_power_of_scaled hread
    exact ⟨_, .power hsign (.whole hw) (.inl rfl) hp hn, by rw [List.append_assoc]; rfl⟩
  case h_3 =>
    obtain ⟨p, down, k, hp, hn, rfl⟩ := exists_power_of_scaled hread
    exact ⟨_, .power hsign (.whole hw) (.inr rfl) hp hn, by rw [List.append_assoc]; rfl⟩
  · obtain ⟨m, hm, hread⟩ := Option.map_eq_some_iff.1 hread
    cases hread
    exact ⟨w, .whole hsign hw hm, rfl⟩

theorem exists_numeral_of_number {cs : List Char} (h : Parser.number cs = some (n, rest)) :
    ∃ w, Numeral w n ∧ cs = w ++ rest := by
  rw [Parser.number.eq_def] at h
  split at h
  · obtain ⟨w, hw, rfl⟩ := exists_numeral_of_unsigned .minus h
    exact ⟨_, hw, rfl⟩
  · exact exists_numeral_of_unsigned .none h

/-! ### Strings -/

theorem hex4_eq_some_iff {cs rest : List Char} {n : Nat} :
    Parser.hex4 cs = some (n, rest) ↔ ∃ h, Hex4 h n ∧ cs = h ++ rest := by
  constructor
  · intro hcs
    rw [Parser.hex4.eq_def] at hcs
    split at hcs
    · obtain ⟨w, hw, hcs⟩ := Option.bind_eq_some_iff.1 hcs
      obtain ⟨x, hx, hcs⟩ := Option.bind_eq_some_iff.1 hcs
      obtain ⟨y, hy, hcs⟩ := Option.bind_eq_some_iff.1 hcs
      obtain ⟨z, hz, hcs⟩ := Option.bind_eq_some_iff.1 hcs
      cases hcs
      exact ⟨_, .mk hw hx hy hz, rfl⟩
    · cases hcs
  · rintro ⟨_, ⟨ha, hb, hc, hd⟩, rfl⟩
    simp [Parser.hex4, ha, hb, hc, hd]

theorem numbered_unit {h cs : List Char} {n : Nat} (hn : Hex4 h n)
    (hlone : ¬ (0xD800 ≤ n ∧ n ≤ 0xDFFF)) : Parser.numbered (h ++ cs) = some (.ofNat n, cs) := by
  rw [Parser.numbered, hex4_eq_some_iff.2 ⟨h, hn, rfl⟩, Option.bind_eq_bind, Option.bind_some]
  dsimp only
  rw [if_neg (by omega), if_neg (by omega)]
  rfl

theorem numbered_pair {h l cs : List Char} {m n : Nat} (hm : Hex4 h m)
    (hhigh : 0xD800 ≤ m ∧ m ≤ 0xDBFF) (hn : Hex4 l n) (hlow : 0xDC00 ≤ n ∧ n ≤ 0xDFFF) :
    Parser.numbered (h ++ '\\' :: 'u' :: (l ++ cs)) =
      some (.ofNat (0x10000 + (m - 0xD800) * 0x400 + (n - 0xDC00)), cs) := by
  rw [Parser.numbered, hex4_eq_some_iff.2 ⟨h, hm, rfl⟩, Option.bind_eq_bind, Option.bind_some]
  dsimp only
  rw [if_neg (by omega), if_pos hhigh]
  have hguard : (guard (0xDC00 ≤ n ∧ n ≤ 0xDFFF) : Option Unit) = some () :=
    (Option.guard_eq_some' _).2 hlow
  simp only [hex4_eq_some_iff.2 ⟨l, hn, rfl⟩, Option.bind_some]
  rw [hguard]
  rfl

theorem of_numbered {cs rest : List Char} {c : Char} (h : Parser.numbered cs = some (c, rest)) :
    ∃ w, cs = w ++ rest ∧
      ∀ w' s, Quoted w' s → Quoted ('\\' :: (('u' :: w) ++ w')) (c :: s) := by
  obtain ⟨⟨n, others⟩, hhex, hread⟩ := Option.bind_eq_some_iff.1 h
  obtain ⟨x, hx, rfl⟩ := hex4_eq_some_iff.1 hhex
  dsimp only at hread
  split at hread
  · cases hread
  · split at hread
    · rename_i hhigh
      split at hread
      · obtain ⟨⟨m, others⟩, hhex', hpair⟩ := Option.bind_eq_some_iff.1 hread
        obtain ⟨y, hy, rfl⟩ := hex4_eq_some_iff.1 hhex'
        obtain ⟨_, hguard, hlast⟩ := Option.bind_eq_some_iff.1 hpair
        have hlow : 0xDC00 ≤ m ∧ m ≤ 0xDFFF := (Option.guard_eq_some' _).1 hguard
        simp only [Option.pure_def, Option.some.injEq, Prod.mk.injEq] at hlast
        obtain ⟨rfl, rfl⟩ := hlast
        refine ⟨x ++ '\\' :: 'u' :: y, by simp, fun w' s hs ↦ ?_⟩
        simpa using Quoted.pair hx hhigh hy hlow hs
      · cases hread
    · cases hread
      exact ⟨x, rfl, fun w' s hs ↦ .unit hx (by omega) hs⟩

theorem escaped_letter {e c : Char} (h : (e, c) ∈ letters) (cs : List Char) :
    Parser.escaped (e :: cs) = some (c, cs) := by
  simp only [letters, List.mem_cons, List.not_mem_nil, or_false, Prod.mk.injEq] at h
  rcases h with ⟨rfl, rfl⟩ | ⟨rfl, rfl⟩ | ⟨rfl, rfl⟩ | ⟨rfl, rfl⟩ | ⟨rfl, rfl⟩ | ⟨rfl, rfl⟩ |
    ⟨rfl, rfl⟩ | ⟨rfl, rfl⟩ <;> rfl

theorem of_escaped {cs rest : List Char} {c : Char} (h : Parser.escaped cs = some (c, rest)) :
    ∃ w, cs = w ++ rest ∧ ∀ w' s, Quoted w' s → Quoted ('\\' :: (w ++ w')) (c :: s) := by
  rw [Parser.escaped.eq_def] at h
  split at h
  case h_9 =>
    obtain ⟨w, rfl, hw⟩ := of_numbered h
    exact ⟨'u' :: w, rfl, hw⟩
  case h_10 => cases h
  all_goals
    cases h
    exact ⟨[_], rfl, fun w' s hs ↦ .letter (by decide) hs⟩

theorem stringRest_escape {fuel : Nat} {e cs t rest : List Char} {c : Char}
    (he : Parser.escaped e = some (c, cs)) (ht : Parser.stringRest fuel cs = some (t, rest)) :
    Parser.stringRest (fuel + 1) ('\\' :: e) = some (c :: t, rest) := by
  rw [Parser.stringRest, if_neg (by decide), if_pos rfl, he, Option.bind_eq_bind, Option.bind_some]
  dsimp only
  rw [ht]
  rfl

theorem stringRest_append {w s : List Char} (h : Quoted w s) {fuel : Nat} (hfuel : w.length < fuel)
    (rest : List Char) : Parser.stringRest fuel (w ++ '"' :: rest) = some (s, rest) := by
  induction h generalizing fuel with
  | nil =>
    obtain ⟨fuel, rfl⟩ := Nat.exists_eq_add_one_of_ne_zero (Nat.ne_of_gt hfuel)
    rfl
  | plain hquote hescape hcontrol _ ih =>
    obtain ⟨fuel, rfl⟩ := Nat.exists_eq_add_one_of_ne_zero (Nat.ne_zero_of_lt hfuel)
    rw [List.cons_append, Parser.stringRest, if_neg hquote, if_neg hescape,
      if_neg (Nat.not_lt.2 hcontrol), ih (Nat.lt_of_succ_lt_succ hfuel)]
    rfl
  | letter he _ ih =>
    obtain ⟨fuel, rfl⟩ := Nat.exists_eq_add_one_of_ne_zero (Nat.ne_zero_of_lt hfuel)
    simp only [List.length_cons] at hfuel
    exact stringRest_escape (escaped_letter he _) (ih (by omega))
  | unit hn hlone _ ih =>
    obtain ⟨fuel, rfl⟩ := Nat.exists_eq_add_one_of_ne_zero (Nat.ne_zero_of_lt hfuel)
    simp only [List.length_cons, List.length_append] at hfuel
    rw [List.cons_append, List.cons_append, List.append_assoc]
    exact stringRest_escape (numbered_unit hn hlone) (ih (by omega))
  | pair hm hhigh hn hlow _ ih =>
    obtain ⟨fuel, rfl⟩ := Nat.exists_eq_add_one_of_ne_zero (Nat.ne_zero_of_lt hfuel)
    simp only [List.length_cons, List.length_append] at hfuel
    rw [List.cons_append, List.cons_append, List.append_assoc, List.cons_append, List.cons_append,
      List.append_assoc]
    exact stringRest_escape (numbered_pair hm hhigh hn hlow) (ih (by omega))

theorem exists_quoted_of_stringRest {fuel : Nat} {cs s rest : List Char}
    (h : Parser.stringRest fuel cs = some (s, rest)) : ∃ w, Quoted w s ∧ cs = w ++ '"' :: rest := by
  induction fuel generalizing cs s rest with
  | zero => cases h
  | succ fuel ih =>
    cases cs with
    | nil => cases h
    | cons c cs =>
      rw [Parser.stringRest] at h
      split at h
      · rename_i hc
        cases h
        exact ⟨[], .nil, by rw [hc]; rfl⟩
      · rename_i hquote
        split at h
        · rename_i hc
          obtain ⟨⟨d, cs⟩, hd, h⟩ := Option.bind_eq_some_iff.1 h
          obtain ⟨⟨t, cs⟩, ht, h⟩ := Option.bind_eq_some_iff.1 h
          cases h
          obtain ⟨e, rfl, he⟩ := of_escaped hd
          obtain ⟨w, hw, rfl⟩ := ih ht
          exact ⟨_, he w t hw, by simp [hc]⟩
        · rename_i hescape
          split at h
          · cases h
          · rename_i hcontrol
            obtain ⟨⟨t, cs⟩, ht, h⟩ := Option.bind_eq_some_iff.1 h
            cases h
            obtain ⟨w, hw, rfl⟩ := ih ht
            exact ⟨_, .plain hquote hescape (Nat.le_of_not_lt hcontrol) hw, rfl⟩

theorem string_append {w s : List Char} (h : Quoted w s) (rest : List Char) :
    Parser.string (w ++ '"' :: rest) = some (.ofList s, rest) := by
  have hfuel : w.length < (w ++ '"' :: rest).length + 1 := by
    rw [List.length_append]
    omega
  rw [Parser.string, stringRest_append h hfuel, Option.map_some]

theorem exists_quoted_of_string {cs rest : List Char} {k : String}
    (h : Parser.string cs = some (k, rest)) :
    ∃ w s, Quoted w s ∧ k = .ofList s ∧ cs = w ++ '"' :: rest := by
  obtain ⟨⟨s, others⟩, hs, h⟩ := Option.map_eq_some_iff.1 h
  cases h
  obtain ⟨w, hw, hcs⟩ := exists_quoted_of_stringRest hs
  exact ⟨w, s, hw, rfl, hcs⟩

end WebDispatch.Json.Grammar
