import WebDispatch.Proofs.JsonScalars

namespace WebDispatch.Json.Grammar

/-! ### Values that are read -/

variable {depth fuel : Nat} {b w cs rest : List Char} {v : Json} {vs : List Json}
  {fs : List (String × Json)}

theorem Blank.append {b' : List Char} (hb : Blank b) (hb' : Blank b') : Blank (b ++ b') :=
  fun c hc ↦ (List.mem_append.1 hc).elim (hb c) (hb' c)

theorem Items.blank_append (hb : Blank b) (h : Items depth w vs) : Items depth (b ++ w) vs := by
  cases h with
  | one hb' hv hc =>
    rw [← List.append_assoc]
    exact .one (hb.append hb') hv hc
  | more hb' hv hc hvs =>
    rw [← List.append_assoc]
    exact .more (hb.append hb') hv hc hvs

theorem Fields.blank_append (hb : Blank b) (h : Fields depth w fs) : Fields depth (b ++ w) fs := by
  cases h with
  | one hb' hk hc hd hv he =>
    rw [← List.append_assoc]
    exact .one (hb.append hb') hk hc hd hv he
  | more hb' hk hc hd hv he hfs =>
    rw [← List.append_assoc]
    exact .more (hb.append hb') hk hc hd hv he hfs

/-- All that is read with some fuel has a text of its kind. -/
structure Sound (fuel : Nat) : Prop where
  value : ∀ depth cs v rest, Parser.value fuel depth cs = some (v, rest) →
    ∃ b w, Blank b ∧ Value depth w v ∧ cs = b ++ (w ++ rest)
  items : ∀ depth cs vs rest, Parser.items fuel depth cs = some (vs, rest) →
    ∃ w, Items depth w vs ∧ cs = w ++ ']' :: rest
  fields : ∀ depth cs fs rest, Parser.fields fuel depth cs = some (fs, rest) →
    ∃ w, Fields depth w fs ∧ cs = w ++ '}' :: rest

theorem Sound.value_succ (ih : Sound fuel)
    (h : Parser.value (fuel + 1) depth cs = some (v, rest)) :
    ∃ b w, Blank b ∧ Value depth w v ∧ cs = b ++ (w ++ rest) := by
  obtain ⟨b, hb, hcs⟩ := exists_blank cs
  suffices hw : ∃ w, Value depth w v ∧ Parser.skipBlanks cs = w ++ rest by
    obtain ⟨w, hw, hstart⟩ := hw
    exact ⟨b, w, hb, hw, hstart ▸ hcs⟩
  rw [Parser.value] at h
  split at h
  case h_1 hstart =>
    cases h
    exact ⟨_, .null, hstart⟩
  case h_2 hstart =>
    cases h
    exact ⟨_, .true, hstart⟩
  case h_3 hstart =>
    cases h
    exact ⟨_, .false, hstart⟩
  case h_4 hstart =>
    obtain ⟨⟨k, others⟩, hk, h⟩ := Option.map_eq_some_iff.1 h
    cases h
    obtain ⟨w, s, hw, rfl, rfl⟩ := exists_quoted_of_string hk
    exact ⟨_, .string hw, by simp [hstart]⟩
  case h_5 others hstart =>
    obtain ⟨b', hb', hothers⟩ := exists_blank others
    split at h
    · cases h
    · split at h
      · rename_i hend
        cases h
        exact ⟨_, .emptyArray hb', by rw [hstart, hothers, hend]; simp⟩
      · obtain ⟨⟨vs, others⟩, hvs, h⟩ := Option.map_eq_some_iff.1 h
        cases h
        obtain ⟨w, hw, hitems⟩ := ih.items _ _ _ _ hvs
        exact ⟨_, .array (hw.blank_append hb'), by rw [hstart, hothers, hitems]; simp⟩
  case h_6 others hstart =>
    obtain ⟨b', hb', hothers⟩ := exists_blank others
    split at h
    · cases h
    · split at h
      · rename_i hend
        cases h
        exact ⟨_, .emptyObject hb', by rw [hstart, hothers, hend]; simp⟩
      · obtain ⟨⟨fs, others⟩, hfs, h⟩ := Option.map_eq_some_iff.1 h
        cases h
        obtain ⟨w, hw, hfields⟩ := ih.fields _ _ _ _ hfs
        exact ⟨_, .object (hw.blank_append hb'), by rw [hstart, hothers, hfields]; simp⟩
  case h_7 =>
    obtain ⟨⟨n, others⟩, hn, h⟩ := Option.map_eq_some_iff.1 h
    cases h
    obtain ⟨w, hw, hcs⟩ := exists_numeral_of_number hn
    exact ⟨w, .number hw, hcs⟩

theorem Sound.items_succ (ih : Sound fuel)
    (h : Parser.items (fuel + 1) depth cs = some (vs, rest)) :
    ∃ w, Items depth w vs ∧ cs = w ++ ']' :: rest := by
  rw [Parser.items] at h
  obtain ⟨⟨v, others⟩, hread, hmore⟩ := Option.bind_eq_some_iff.1 h
  obtain ⟨b, w, hb, hv, rfl⟩ := ih.value _ _ _ _ hread
  obtain ⟨b', hb', hothers⟩ := exists_blank others
  dsimp only at hmore
  split at hmore
  case h_1 hend =>
    cases hmore
    exact ⟨_, .one hb hv hb', by rw [hothers, hend]; simp⟩
  case h_2 hcomma =>
    obtain ⟨⟨vs, others⟩, hvs, hlast⟩ := Option.bind_eq_some_iff.1 hmore
    cases hlast
    obtain ⟨ws, hws, hitems⟩ := ih.items _ _ _ _ hvs
    exact ⟨_, .more hb hv hb' hws, by rw [hothers, hcomma, hitems]; simp⟩
  case h_3 => cases hmore

theorem Sound.fields_succ (ih : Sound fuel)
    (h : Parser.fields (fuel + 1) depth cs = some (fs, rest)) :
    ∃ w, Fields depth w fs ∧ cs = w ++ '}' :: rest := by
  obtain ⟨b, hb, hcs⟩ := exists_blank cs
  rw [Parser.fields] at h
  split at h
  case h_2 => cases h
  rename_i hquote
  obtain ⟨⟨k, afterName⟩, hname, hcolon⟩ := Option.bind_eq_some_iff.1 h
  obtain ⟨wk, s, hk, rfl, rfl⟩ := exists_quoted_of_string hname
  obtain ⟨b', hb', hafterName⟩ := exists_blank afterName
  dsimp only at hcolon
  split at hcolon
  case h_2 => cases hcolon
  rename_i hcolonAt
  obtain ⟨⟨v, afterValue⟩, hread, hmore⟩ := Option.bind_eq_some_iff.1 hcolon
  obtain ⟨c, w, hc, hv, rfl⟩ := ih.value _ _ _ _ hread
  obtain ⟨c', hc', hafterValue⟩ := exists_blank afterValue
  dsimp only at hmore
  split at hmore
  case h_1 hend =>
    cases hmore
    refine ⟨_, .one hb hk hb' hc hv hc', ?_⟩
    rw [hcs, hquote, hafterName, hcolonAt, hafterValue, hend]
    simp
  case h_2 hcomma =>
    obtain ⟨⟨fs, others⟩, hfs, hlast⟩ := Option.bind_eq_some_iff.1 hmore
    cases hlast
    obtain ⟨ws, hws, hfields⟩ := ih.fields _ _ _ _ hfs
    refine ⟨_, .more hb hk hb' hc hv hc' hws, ?_⟩
    rw [hcs, hquote, hafterName, hcolonAt, hafterValue, hcomma, hfields]
    simp
  case h_3 => cases hmore

theorem sound (fuel : Nat) : Sound fuel := by
  induction fuel with
  | zero => exact ⟨nofun, nofun, nofun⟩
  | succ fuel ih =>
    exact ⟨fun _ _ _ _ ↦ ih.value_succ, fun _ _ _ _ ↦ ih.items_succ, fun _ _ _ _ ↦ ih.fields_succ⟩

/-! ### Texts that are read as values -/

theorem Ends.blank_append (hb : Blank b) (hrest : Ends rest) : Ends (b ++ rest) := by
  cases b with
  | nil => exact hrest
  | cons c b =>
    rintro _ ⟨⟩
    rcases hb c List.mem_cons_self with rfl | rfl | rfl | rfl <;> decide

theorem ends_nil : Ends [] :=
  nofun

theorem ends_cons (c : Char) (hc : c.isDigit = false ∧ c ≠ '.' ∧ c ≠ 'e' ∧ c ≠ 'E')
    (cs : List Char) : Ends (c :: cs) := by
  rintro _ ⟨⟩
  exact hc

theorem Sign.exists_cons {sign : List Char} (hsign : Sign sign negative) {c : Char}
    (hc : c.isDigit = true) (cs : List Char) :
    ∃ d cs', sign ++ c :: cs = d :: cs' ∧ (d = '-' ∨ d.isDigit = true) := by
  cases hsign with
  | none => exact ⟨c, cs, rfl, .inr hc⟩
  | minus => exact ⟨'-', c :: cs, rfl, .inl rfl⟩

theorem Numeral.exists_cons (h : Numeral w n) :
    ∃ c w', w = c :: w' ∧ (c = '-' ∨ c.isDigit = true) := by
  cases h with
  | whole hsign hw hn =>
    obtain ⟨c, w', rfl, hc⟩ := hw.digits.exists_cons
    exact hsign.exists_cons hc _
  | fraction hsign hw hf hn =>
    obtain ⟨c, w', rfl, hc⟩ := hw.digits.exists_cons
    exact hsign.exists_cons hc _
  | power hsign hd he hp hn =>
    obtain ⟨c, d, rfl, hc⟩ := hd.exists_cons
    exact hsign.exists_cons hc _

theorem not_isBlank_of_isDigit {c : Char} (hc : c = '-' ∨ c.isDigit = true) :
    Parser.isBlank c = false := by
  by_contra hblank
  rcases isBlank_iff.1 (Bool.not_eq_false _ ▸ hblank) with rfl | rfl | rfl | rfl <;>
    exact absurd hc (by decide)

theorem value_number (hw : Numeral w n) (hb : Blank b) (hrest : Ends rest) :
    Parser.value (fuel + 1) depth (b ++ (w ++ rest)) = some (.number n, rest) := by
  have hread := hw.number_append hrest
  obtain ⟨c, w', rfl, hc⟩ := hw.exists_cons
  rw [Parser.value, List.cons_append, skipBlanks_cons hb (not_isBlank_of_isDigit hc)]
  split
  case h_7 =>
    rw [← List.cons_append, hread]
    rfl
  all_goals
    rename_i hstart
    obtain rfl := (List.cons.inj hstart).1
    exact absurd hc (by decide)

theorem exists_cons_of_value (h : Value depth w v) :
    ∃ c w', w = c :: w' ∧ Parser.isBlank c = false ∧ c ≠ ']' := by
  cases h with
  | number hw =>
    obtain ⟨c, w', rfl, hc⟩ := hw.exists_cons
    refine ⟨c, w', rfl, not_isBlank_of_isDigit hc, ?_⟩
    rintro rfl
    exact absurd hc (by decide)
  | _ => exact ⟨_, _, rfl, rfl, by simp⟩

theorem Items.exists_blank (h : Items depth w vs) :
    ∃ b c w', w = b ++ c :: w' ∧ Blank b ∧ Parser.isBlank c = false ∧ c ≠ ']' ∧
      Items depth (c :: w') vs := by
  cases h with
  | one hb hv hb' =>
    obtain ⟨c, w', rfl, hc, hend⟩ := exists_cons_of_value hv
    exact ⟨_, c, _, rfl, hb, hc, hend, .one blank_nil hv hb'⟩
  | more hb hv hb' hvs =>
    obtain ⟨c, w', rfl, hc, hend⟩ := exists_cons_of_value hv
    exact ⟨_, c, _, rfl, hb, hc, hend, .more blank_nil hv hb' hvs⟩

theorem Fields.exists_blank (h : Fields depth w fs) :
    ∃ b w', w = b ++ '"' :: w' ∧ Blank b ∧ Fields depth ('"' :: w') fs := by
  cases h with
  | one hb hk hb' hc hv hc' => exact ⟨_, _, rfl, hb, .one blank_nil hk hb' hc hv hc'⟩
  | more hb hk hb' hc hv hc' hfs => exact ⟨_, _, rfl, hb, .more blank_nil hk hb' hc hv hc' hfs⟩

/-- Every text is read with twice its length as fuel. -/
structure Complete (fuel : Nat) : Prop where
  value : ∀ depth b w v rest, Value depth w v → Blank b → Ends rest → 2 * w.length < fuel →
    Parser.value fuel depth (b ++ (w ++ rest)) = some (v, rest)
  items : ∀ depth w vs rest, Items depth w vs → 2 * w.length + 1 < fuel →
    Parser.items fuel depth (w ++ ']' :: rest) = some (vs, rest)
  fields : ∀ depth w fs rest, Fields depth w fs → 2 * w.length + 1 < fuel →
    Parser.fields fuel depth (w ++ '}' :: rest) = some (fs, rest)

section Brackets

variable {c : Char} {b' : List Char} (hb : Blank b) (hb' : Blank b')

include hb hb'

theorem value_emptyArray :
    Parser.value (fuel + 1) (depth + 1) (b ++ '[' :: (b' ++ ']' :: rest)) =
      some (.array [], rest) := by
  have hend : Parser.skipBlanks (b' ++ ']' :: rest) = ']' :: rest := skipBlanks_cons hb' rfl
  rw [Parser.value, skipBlanks_cons hb rfl]
  simp only [hend]

theorem value_array (hc : Parser.isBlank c = false) (hend : c ≠ ']') :
    Parser.value (fuel + 1) (depth + 1) (b ++ '[' :: (b' ++ c :: cs)) =
      (Parser.items fuel depth (c :: cs)).map fun p ↦ (.array p.1, p.2) := by
  rw [Parser.value, skipBlanks_cons hb rfl]
  simp only [skipBlanks_cons hb' hc]
  split
  · rename_i hstart
    exact absurd (List.cons.inj hstart).1 hend
  · rfl

theorem value_emptyObject :
    Parser.value (fuel + 1) (depth + 1) (b ++ '{' :: (b' ++ '}' :: rest)) =
      some (.object [], rest) := by
  have hend : Parser.skipBlanks (b' ++ '}' :: rest) = '}' :: rest := skipBlanks_cons hb' rfl
  rw [Parser.value, skipBlanks_cons hb rfl]
  simp only [hend]

theorem value_object :
    Parser.value (fuel + 1) (depth + 1) (b ++ '{' :: (b' ++ '"' :: cs)) =
      (Parser.fields fuel depth ('"' :: cs)).map fun p ↦ (ofFields p.1, p.2) := by
  have hname : Parser.skipBlanks (b' ++ '"' :: cs) = '"' :: cs := skipBlanks_cons hb' rfl
  rw [Parser.value, skipBlanks_cons hb rfl]
  simp only [hname]
  rfl

end Brackets

theorem value_string (hb : Blank b) :
    Parser.value (fuel + 1) depth (b ++ '"' :: cs) =
      (Parser.string cs).map fun p ↦ (.string p.1, p.2) := by
  rw [Parser.value, skipBlanks_cons hb rfl]
  rfl

theorem Complete.value_succ (ih : Complete fuel) (h : Value depth w v) (hb : Blank b)
    (hrest : Ends rest) (hfuel : 2 * w.length < fuel + 1) :
    Parser.value (fuel + 1) depth (b ++ (w ++ rest)) = some (v, rest) := by
  cases h with
  | number hw => exact value_number hw hb hrest
  | string hw =>
    rw [List.cons_append, List.append_assoc, List.singleton_append, value_string hb,
      string_append hw, Option.map_some]
  | emptyArray hb' =>
    rw [List.cons_append, List.append_assoc, List.singleton_append, value_emptyArray hb hb']
  | array hvs =>
    obtain ⟨b', c, w', rfl, hb', hc, hend, hvs⟩ := hvs.exists_blank
    have hread := ih.items _ _ _ rest hvs (by simp at hfuel ⊢; omega)
    rw [List.cons_append, List.append_assoc, List.append_assoc, List.singleton_append,
      List.cons_append, value_array hb hb' hc hend, ← List.cons_append, hread, Option.map_some]
  | emptyObject hb' =>
    rw [List.cons_append, List.append_assoc, List.singleton_append, value_emptyObject hb hb']
  | object hfs =>
    obtain ⟨b', w', rfl, hb', hfs⟩ := hfs.exists_blank
    have hread := ih.fields _ _ _ rest hfs (by simp at hfuel ⊢; omega)
    rw [List.cons_append, List.append_assoc, List.append_assoc, List.singleton_append,
      List.cons_append, value_object hb hb', ← List.cons_append, hread, Option.map_some]
  | _ =>
    rw [Parser.value, List.cons_append, skipBlanks_cons hb rfl]
    rfl

theorem Complete.items_succ (ih : Complete fuel) (h : Items depth w vs)
    (hfuel : 2 * w.length + 1 < fuel + 1) :
    Parser.items (fuel + 1) depth (w ++ ']' :: rest) = some (vs, rest) := by
  cases h with
  | one hb hv hb' =>
    simp only [List.length_append] at hfuel
    have hread := ih.value _ _ _ _ _ hv hb
      (.blank_append hb' (ends_cons ']' (by decide) rest)) (by omega)
    rw [Parser.items, List.append_assoc, List.append_assoc, hread, Option.bind_eq_bind,
      Option.bind_some]
    dsimp only
    rw [skipBlanks_cons hb' rfl]
    rfl
  | @more _ _ _ _ ws _ _ hb hv hb' hvs =>
    simp only [List.length_append, List.length_cons] at hfuel
    have hread := ih.value _ _ _ _ _ hv hb
      (.blank_append hb' (ends_cons ',' (by decide) (ws ++ ']' :: rest))) (by omega)
    have hlast := ih.items _ _ _ rest hvs (by omega)
    rw [Parser.items, List.append_assoc, List.append_assoc, List.append_assoc, List.cons_append,
      hread, Option.bind_eq_bind, Option.bind_some]
    dsimp only
    rw [skipBlanks_cons hb' rfl]
    change (Parser.items _ _ _).bind _ = _
    rw [hlast]
    rfl

theorem fields_cons {k s b' others : List Char} (hb : Blank b) (hk : Quoted k s) (hb' : Blank b')
    (hread : Parser.value fuel depth cs = some (v, others)) :
    Parser.fields (fuel + 1) depth (b ++ '"' :: (k ++ '"' :: (b' ++ ':' :: cs))) =
      match Parser.skipBlanks others with
      | '}' :: rest => some ([(.ofList s, v)], rest)
      | ',' :: ws => (Parser.fields fuel depth ws).bind fun p ↦ some ((.ofList s, v) :: p.1, p.2)
      | _ => none := by
  rw [Parser.fields, skipBlanks_cons hb rfl]
  change (Parser.string _).bind _ = _
  rw [string_append hk, Option.bind_some]
  dsimp only
  rw [skipBlanks_cons hb' rfl]
  change (Parser.value _ _ _).bind _ = _
  rw [hread]
  rfl

theorem Complete.fields_succ (ih : Complete fuel) (h : Fields depth w fs)
    (hfuel : 2 * w.length + 1 < fuel + 1) :
    Parser.fields (fuel + 1) depth (w ++ '}' :: rest) = some (fs, rest) := by
  cases h with
  | one hb hk hb' hc hv hc' =>
    simp only [List.length_append, List.length_cons] at hfuel
    have hread := ih.value _ _ _ _ _ hv hc
      (.blank_append hc' (ends_cons '}' (by decide) rest)) (by omega)
    simp only [List.append_assoc, List.cons_append]
    rw [fields_cons hb hk hb' hread, skipBlanks_cons hc' rfl]
    rfl
  | @more _ _ _ _ _ _ _ _ ws _ _ hb hk hb' hc hv hc' hfs =>
    simp only [List.length_append, List.length_cons] at hfuel
    have hread := ih.value _ _ _ _ _ hv hc
      (.blank_append hc' (ends_cons ',' (by decide) (ws ++ '}' :: rest))) (by omega)
    have hlast := ih.fields _ _ _ rest hfs (by omega)
    simp only [List.append_assoc, List.cons_append]
    rw [fields_cons hb hk hb' hread, skipBlanks_cons hc' rfl]
    change (Parser.fields _ _ _).bind _ = _
    rw [hlast, Option.bind_some]

theorem complete (fuel : Nat) : Complete fuel := by
  induction fuel with
  | zero =>
    refine ⟨fun _ _ _ _ _ _ _ _ h ↦ ?_, fun _ _ _ _ _ h ↦ ?_, fun _ _ _ _ _ h ↦ ?_⟩ <;>
      exact absurd h (Nat.not_lt_zero _)
  | succ fuel ih =>
    exact ⟨fun _ _ _ _ _ ↦ ih.value_succ, fun _ _ _ _ ↦ ih.items_succ,
      fun _ _ _ _ ↦ ih.fields_succ⟩

/-- The texts that are read, and as what: those of the grammar. -/
theorem parse?_eq_some_iff {text : String} {v : Json} :
    Parser.parse? text = some v ↔ Denotes text v := by
  constructor
  · intro h
    obtain ⟨⟨v, others⟩, hread, hend⟩ := Option.bind_eq_some_iff.1 h
    obtain ⟨_, hguard, hlast⟩ := Option.bind_eq_some_iff.1 hend
    cases hlast
    obtain ⟨b, w, hb, hw, hcs⟩ := (sound _).value _ _ _ _ hread
    obtain ⟨b', hb', hothers⟩ := exists_blank others
    have hempty : Parser.skipBlanks others = [] :=
      List.isEmpty_iff.1 ((Option.guard_eq_some' _).1 hguard)
    refine ⟨b, w, b', ?_, hb, hw, hb'⟩
    rw [hcs, hothers, hempty, List.append_nil]
  · rintro ⟨b, w, b', htext, hb, hw, hb'⟩
    have hfuel : 2 * w.length < 2 * text.toList.length + 2 := by
      simp only [htext, List.length_append]
      omega
    have hends : Ends b' := List.append_nil b' ▸ ends_nil.blank_append hb'
    have hread := (complete _).value _ _ _ _ _ hw hb hends hfuel
    have hempty : Parser.skipBlanks b' = [] := by
      have happend : Parser.skipBlanks (b' ++ []) = [] := skipBlanks_append hb' nofun
      rwa [List.append_nil] at happend
    have hguard : (guard (Parser.skipBlanks b').isEmpty : Option Unit) = some () :=
      (Option.guard_eq_some' _).2 (List.isEmpty_iff.2 hempty)
    rw [← htext] at hread
    simp only [Parser.parse?, Parser.maxDepth, Option.bind_eq_bind, hread, Option.bind_some, hguard,
      Option.pure_def]

-- A number that is too large, one that is as small as nothing, and half of a surrogate pair.
example : ["1e308", "1e309", "1e-400", "\"\\ud83d\\ude00\"", "\"\\ud83d\""].map
    (fun text ↦ (Parser.parse? text).isSome) = [true, false, true, true, false] := by
  decide +kernel

end WebDispatch.Json.Grammar
