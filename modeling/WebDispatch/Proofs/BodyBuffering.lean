import WebDispatch.Proofs.UnservedRequests
import WebDispatch.Text.Case

namespace WebDispatch.Entity

open Http

def inPieces (pieces : List Bytes) : List Chunk :=
  pieces.map .data

/-- The type of a body is that of a form, whatever parameters it has. -/
def DeclaresForm (contentType : String) : Prop :=
  ∃ parameters, Text.lower (Text.trimStart contentType) = "multipart/form-data" ++ parameters

def ofBody (contentType : Option String) (data : Bytes) : Except Error Entity :=
  match contentType.filter isMultipart with
  | some contentType => ofMultipart contentType data
  | none => .ok { data, contentType }

theorem isMultipart_iff {contentType : String} :
    isMultipart contentType = true ↔ DeclaresForm contentType := by
  have hlower (parameters : String) :
      Text.lower (Text.trimStart contentType) = "multipart/form-data" ++ parameters ↔
        "multipart/form-data".toList ++ parameters.toList =
          (Text.trimStart contentType).toList.map Char.toLower := by
    rw [← String.toList_inj, Text.lower, String.toList_ofList, String.toList_append, eq_comm]
  simp only [isMultipart, List.isPrefixOf_iff_prefix, DeclaresForm, hlower]
  constructor
  · intro ⟨rest, hrest⟩
    exact ⟨.ofList rest, by rwa [String.toList_ofList (l := rest)]⟩
  · intro ⟨parameters, h⟩
    exact ⟨parameters.toList, h⟩

/-! ### Buffering -/

theorem buffer_inPieces_append {limit : Nat} {buffered : Bytes} (h : buffered.length ≤ limit)
    (pieces : List Bytes) (rest : List Chunk) :
    buffer limit buffered (inPieces pieces ++ rest) =
      if limit < (buffered ++ pieces.flatten).length then .error (.payloadTooLarge limit)
      else buffer limit (buffered ++ pieces.flatten) rest := by
  induction pieces generalizing buffered with
  | nil =>
    have hfits : ¬ limit < (buffered ++ [].flatten).length := by
      simp only [List.flatten_nil, List.append_nil]
      omega
    rw [if_neg hfits]
    simp [inPieces]
  | cons piece pieces ih =>
    simp only [inPieces, List.map_cons, List.cons_append, List.flatten_cons, ← List.append_assoc]
    rw [buffer, ← List.length_append]
    by_cases hpiece : limit < (buffered ++ piece).length
    · have hall : limit < (buffered ++ piece ++ pieces.flatten).length := by
        rw [List.length_append]
        omega
      rw [if_pos hpiece, if_pos hall]
    · rw [if_neg hpiece]
      exact ih (Nat.le_of_not_lt hpiece)

theorem read_eq (limit : Nat) (contentType : Option String) (body : List Chunk) :
    read limit contentType body = (buffer limit [] body).bind (ofBody contentType) := by
  rw [read]
  cases buffer limit [] body <;> rfl

theorem read_inPieces (limit : Nat) (contentType : Option String) (pieces : List Bytes) :
    read limit contentType (inPieces pieces) =
      if limit < pieces.flatten.length then .error (.payloadTooLarge limit)
      else ofBody contentType pieces.flatten := by
  have hempty : ([] : Bytes).length ≤ limit := Nat.zero_le limit
  have hbuffer := buffer_inPieces_append hempty pieces []
  simp only [List.append_nil, List.nil_append, buffer] at hbuffer
  rw [read_eq, hbuffer]
  split <;> rfl

theorem read_inPieces_failure (limit : Nat) (contentType : Option String) (pieces : List Bytes)
    (message : String) (later : List Chunk) :
    read limit contentType (inPieces pieces ++ .failure message :: later) =
      .error (if limit < pieces.flatten.length then .payloadTooLarge limit
        else .malformedEntity message) := by
  have hempty : ([] : Bytes).length ≤ limit := Nat.zero_le limit
  have hbuffer := buffer_inPieces_append hempty pieces (.failure message :: later)
  simp only [List.nil_append, buffer] at hbuffer
  rw [read_eq, hbuffer]
  split <;> rfl

/-! ### Entities -/

theorem ofBody_of_not_declaresForm {contentType : Option String}
    (h : ∀ text, contentType = some text → ¬ DeclaresForm text) (data : Bytes) :
    ofBody contentType data = .ok { data, contentType } := by
  have hnone : contentType.filter isMultipart = none := by
    rw [Option.filter_eq_none_iff]
    intro text htext
    rw [isMultipart_iff]
    exact h text htext
  rw [ofBody, hnone]

theorem ofBody_ne_payloadTooLarge (contentType : Option String) (data : Bytes) (limit : Nat) :
    ofBody contentType data ≠ .error (.payloadTooLarge limit) := by
  intro h
  rw [ofBody] at h
  split at h
  · cases ofMultipart_error h
  · cases h

/-- The entity of a request does not depend on the pieces that its body arrives in. It is refused
for its length exactly if it has more bytes than the limit, be it a form or not; if not, and the type
is not that of a form, the entity is those bytes with that type. When the transport fails there is no
entity, and the length is the reason if there were too many bytes before. -/
theorem read_independent_of_pieces (limit : Nat) (contentType : Option String)
    (pieces : List Bytes) :
    (∀ others : List Bytes, others.flatten = pieces.flatten →
      read limit contentType (inPieces others) = read limit contentType (inPieces pieces)) ∧
    (read limit contentType (inPieces pieces) = .error (.payloadTooLarge limit) ↔
      limit < pieces.flatten.length) ∧
    (pieces.flatten.length ≤ limit → (∀ text, contentType = some text → ¬ DeclaresForm text) →
      read limit contentType (inPieces pieces) = .ok { data := pieces.flatten, contentType }) ∧
    ∀ message later, read limit contentType (inPieces pieces ++ .failure message :: later) =
      .error (if limit < pieces.flatten.length then .payloadTooLarge limit
        else .malformedEntity message) := by
  refine ⟨?_, ?_, ?_, read_inPieces_failure limit contentType pieces⟩
  · intro others h
    rw [read_inPieces, read_inPieces, h]
  · rw [read_inPieces]
    split
    · rename_i hlong
      simp only [hlong]
    · rename_i hfits
      simp only [hfits, ofBody_ne_payloadTooLarge]
  · intro hfits hform
    rw [read_inPieces, if_neg (Nat.not_lt.2 hfits)]
    exact ofBody_of_not_declaresForm hform _

example : read 2 none (inPieces [[0x61], [], [0x62], []]) = .ok { data := [0x61, 0x62] } := rfl

end WebDispatch.Entity
