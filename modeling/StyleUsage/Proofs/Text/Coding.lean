import StyleUsage.Text.Basic

/-!
# Bytes that are no text

Bytes have a fault exactly if they are not UTF-8 (`exists_fault_iff`), and it is at the first
position where no character is encoded: what stands in front of it is a text
(`faultyAt_of_ofBytes`).
-/

namespace StyleUsage.Text

variable {content : ByteArray} {position fuel : Nat} {fault : CodingFault}

/-- The bytes in front of a position are a text, and behind them no character is encoded. -/
structure FaultyAt (content : ByteArray) (position : Nat) : Prop where
  lt_size : position < content.size
  before : (content.extract 0 position).IsValidUTF8
  undecoded : content.utf8DecodeChar? position = none

/-- A character behind a text makes a longer text. -/
theorem isValidUTF8_extract_add {c : Char} (h : (content.extract 0 position).IsValidUTF8)
    (hc : content.utf8DecodeChar? position = some c) :
    (content.extract 0 (position + c.utf8Size)).IsValidUTF8 := by
  have hbytes : content.extract position (position + c.utf8Size) =
      (String.utf8EncodeChar c).toByteArray := by
    have hsize := ByteArray.le_size_of_utf8DecodeChar?_eq_some hc
    rw [ByteArray.utf8DecodeChar?_eq_utf8DecodeChar?_extract] at hc
    rw [String.toByteArray_utf8EncodeChar_of_utf8DecodeChar?_eq_some hc,
      ByteArray.extract_extract, Nat.add_zero, Nat.min_eq_left hsize]
  have hwhole : content.extract 0 (position + c.utf8Size) =
      content.extract 0 position ++ content.extract position (position + c.utf8Size) := by
    rw [ByteArray.extract_append_extract, Nat.zero_min, Nat.max_eq_right (Nat.le_add_right _ _)]
  rw [hwhole, hbytes]
  exact h.append Char.isValidUTF8_toByteArray_utf8EncodeChar

/-- Going on behind a text ends at the first fault, or else the bytes are a text as a whole. -/
theorem undecoded?_cases (hfuel : content.size ≤ position + fuel) (hle : position ≤ content.size)
    (h : (content.extract 0 position).IsValidUTF8) :
    undecoded? content fuel position = none ∧ content.IsValidUTF8 ∨
      ∃ p, undecoded? content fuel position = some p ∧ FaultyAt content p := by
  have hend : position = content.size → content.IsValidUTF8 := by
    rintro rfl
    rwa [ByteArray.extract_zero_size] at h
  induction fuel generalizing position with
  | zero => exact .inl ⟨rfl, hend (by omega)⟩
  | succ fuel ih =>
    rw [undecoded?]
    by_cases hlt : position < content.size
    · rw [if_pos hlt]
      cases hc : content.utf8DecodeChar? position with
      | none => exact .inr ⟨position, rfl, hlt, h, hc⟩
      | some c =>
        have hsize := ByteArray.le_size_of_utf8DecodeChar?_eq_some hc
        have hpos := c.utf8Size_pos
        have hmore := isValidUTF8_extract_add h hc
        refine ih (by omega) hsize hmore fun heq => ?_
        rwa [heq, ByteArray.extract_zero_size] at hmore
    · rw [if_neg hlt]
      exact .inl ⟨rfl, hend (by omega)⟩

theorem position_faultAt (position : Nat) (bytes : List UInt8) :
    (faultAt position bytes).position = position := by
  cases bytes with
  | nil => rfl
  | cons first rest =>
    unfold faultAt
    dsimp only
    split <;> rfl

/-- An accented letter in Latin-1 in front of a quote. -/
example : (faultAt 13 [0xE9, 0x22]).message =
    "'utf-8' codec can't decode byte 0xe9 in position 13: invalid continuation byte" := by
  decide

/-- The fault of bytes that are no text is at the first position where no character is encoded. -/
theorem faultyAt_of_ofBytes (h : ofBytes content = .error fault) :
    FaultyAt content fault.position := by
  unfold ofBytes at h
  split at h
  · cases h
  · next hnone =>
    have hinvalid : ¬content.IsValidUTF8 := by
      intro hvalid
      rw [String.fromUTF8?, dif_pos hvalid] at hnone
      cases hnone
    have hempty : (content.extract 0 0).IsValidUTF8 := by simp
    have hsize : content.size ≤ 0 + content.size := by omega
    rcases undecoded?_cases hsize (Nat.zero_le _) hempty with ⟨-, hvalid⟩ | ⟨p, hp, hfault⟩
    · exact absurd hvalid hinvalid
    · cases h
      rw [position_faultAt, hp]
      exact hfault

theorem exists_fault_iff : (∃ fault, ofBytes content = .error fault) ↔ ¬content.IsValidUTF8 := by
  unfold ofBytes String.fromUTF8?
  by_cases h : content.IsValidUTF8 <;> simp [h]

/-- What is written to a file is read from it, but for its line ends. -/
theorem ofBytes_toUTF8 (s : String) : ofBytes s.toUTF8 = .ok (ofFile s) := by
  have hdecode : String.fromUTF8? s.toUTF8 = some s := by
    simp only [String.fromUTF8?]
    exact dif_pos s.isValidUTF8
  unfold ofBytes
  rw [hdecode]

end StyleUsage.Text
