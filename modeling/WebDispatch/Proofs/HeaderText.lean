import Mathlib.Data.List.Basic
import WebDispatch.Http.Header
import WebDispatch.Proofs.PercentCoding

namespace WebDispatch.Http.HeaderValue

/-- A tab, the blank or a character of visible ASCII. -/
def IsVisible (c : Char) : Prop :=
  c = '\t' ∨ ' ' ≤ c ∧ c ≤ '~'

instance : DecidablePred IsVisible :=
  fun c ↦ inferInstanceAs (Decidable (c = '\t' ∨ ' ' ≤ c ∧ c ≤ '~'))

theorem isVisible_iff {c : Char} :
    IsVisible c ↔ c.toNat = 0x09 ∨ 0x20 ≤ c.toNat ∧ c.toNat < 0x7F := by
  have htab : c = '\t' ↔ c.toNat = 0x09 := by
    constructor
    · intro h
      rw [h]
      rfl
    · intro h
      rw [← Char.ofNat_toNat c, h]
  have hblank : ' ' ≤ c ↔ 0x20 ≤ c.toNat := Iff.rfl
  have htilde : c ≤ '~' ↔ c.toNat ≤ 0x7E := Iff.rfl
  rw [IsVisible, htab, hblank, htilde]
  omega

theorem isVisibleByte_iff {b : UInt8} :
    isVisibleByte b = true ↔ b.toNat = 0x09 ∨ 0x20 ≤ b.toNat ∧ b.toNat < 0x7F := by
  simp [isVisibleByte, UInt8.le_iff_toNat_le, UInt8.lt_iff_toNat_lt, ← UInt8.toNat_inj]

def visibleChar (b : UInt8) : Char :=
  .ofNat b.toNat

theorem visibleChar_of_isVisibleByte {b : UInt8} (h : isVisibleByte b = true) :
    IsVisible (visibleChar b) ∧ String.utf8EncodeChar (visibleChar b) = [b] := by
  rw [isVisibleByte_iff] at h
  have hchar : (visibleChar b).toNat = b.toNat :=
    Text.Utf8.toNat_ofNat_of_isValidChar (.inl (by omega))
  constructor
  · rwa [isVisible_iff, hchar]
  · rw [Text.Percent.utf8EncodeChar_ascii (by omega), hchar, UInt8.ofNat_toNat]

theorem exists_visibleChar {c : Char} (h : IsVisible c) :
    ∃ b, isVisibleByte b = true ∧ visibleChar b = c := by
  rw [isVisible_iff] at h
  have hbyte : (UInt8.ofNat c.toNat).toNat = c.toNat := Text.Utf8.toNat_ofNat_of_lt (by omega)
  refine ⟨.ofNat c.toNat, ?_, ?_⟩
  · rwa [isVisibleByte_iff, hbyte]
  · rw [visibleChar, hbyte, Char.ofNat_toNat]

theorem encode_map_visibleChar {bs : Bytes} (h : ∀ b ∈ bs, isVisibleByte b = true) :
    Text.Utf8.encode (.ofList (bs.map visibleChar)) = bs := by
  rw [Text.Utf8.encode, String.toList_ofList]
  induction bs with
  | nil => rfl
  | cons b bs ih =>
    have hb := (visibleChar_of_isVisibleByte (h b List.mem_cons_self)).2
    rw [List.map_cons, List.flatMap_cons, hb, ih fun a ha ↦ h a (List.mem_cons_of_mem b ha)]
    rfl

theorem exists_map_visibleChar {cs : List Char} (h : ∀ c ∈ cs, IsVisible c) :
    ∃ bs : Bytes, (∀ b ∈ bs, isVisibleByte b = true) ∧ cs = bs.map visibleChar := by
  induction cs with
  | nil => exact ⟨[], by simp, rfl⟩
  | cons c cs ih =>
    obtain ⟨b, hb, hc⟩ := exists_visibleChar (h c List.mem_cons_self)
    obtain ⟨bs, hbs, hcs⟩ := ih fun d hd ↦ h d (List.mem_cons_of_mem c hd)
    exact ⟨b :: bs, by simpa using ⟨hb, hbs⟩, by rw [List.map_cons, hc, hcs]⟩

theorem text?_eq_some_iff {v : HeaderValue} {s : String} :
    v.text? = some s ↔ v.bytes = Text.Utf8.encode s ∧ ∀ c ∈ s.toList, IsVisible c := by
  constructor
  · intro h
    rw [text?] at h
    split_ifs at h with hall
    cases h
    rw [List.all_eq_true] at hall
    refine ⟨(encode_map_visibleChar hall).symm, ?_⟩
    intro c hc
    rw [String.toList_ofList] at hc
    obtain ⟨b, hb, rfl⟩ := List.mem_map.1 hc
    exact (visibleChar_of_isVisibleByte (hall b hb)).1
  · intro ⟨hbytes, hvisible⟩
    obtain ⟨bs, hbs, hchars⟩ := exists_map_visibleChar hvisible
    obtain rfl : s = .ofList (bs.map visibleChar) := by rw [← hchars, String.ofList_toList]
    rw [encode_map_visibleChar hbs] at hbytes
    rw [text?, hbytes, if_pos (List.all_eq_true.2 hbs)]
    rfl

theorem parse?_of_visible {s : String} (h : ∀ c ∈ s.toList, IsVisible c) :
    parse? s = some ⟨Text.Utf8.encode s⟩ := by
  obtain ⟨bs, hbs, hchars⟩ := exists_map_visibleChar h
  obtain rfl : s = .ofList (bs.map visibleChar) := by rw [← hchars, String.ofList_toList]
  have hvalue : ∀ b ∈ bs, isValueByte b = true := by
    intro b hb
    have hvisible := hbs b hb
    simp [isVisibleByte, isValueByte, UInt8.le_iff_toNat_le, UInt8.lt_iff_toNat_lt,
      ← UInt8.toNat_inj] at hvisible ⊢
    omega
  rw [parse?, encode_map_visibleChar hbs, ofBytes?, if_pos (List.all_eq_true.2 hvalue)]

end WebDispatch.Http.HeaderValue
