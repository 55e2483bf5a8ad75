import StyleUsage.Proofs.Json.Layout
import StyleUsage.Text.Basic

/-!
# Line ends in JSON texts

A file is read with one kind of line end, which changes carriage returns and nothing else. Texts
escape them, so the text of a plain value has none and is read as it was written
(`ofFile_of_not_mem`).
-/

namespace StyleUsage

namespace Text

theorem unifyLineEnds_of_not_mem : ∀ {cs : List Char}, '\r' ∉ cs → unifyLineEnds cs = cs
  | [], _ => rfl
  | c :: rest, h => by
    have hc : c ≠ '\r' := fun he => h (he ▸ List.mem_cons_self)
    have hrest : '\r' ∉ rest := fun hm => h (List.mem_cons_of_mem c hm)
    simp [unifyLineEnds, hc, unifyLineEnds_of_not_mem hrest]

theorem ofFile_of_not_mem {content : String} (h : '\r' ∉ content.toList) :
    ofFile content = content := by
  unfold ofFile
  rw [unifyLineEnds_of_not_mem h, String.ofList_toList]

end Text

namespace Json

theorem hexDigit_ne_return : ∀ n < 16, hexDigit n ≠ '\r' := by
  decide

theorem return_not_mem_escapeChar (c : Char) : '\r' ∉ escapeChar c := by
  unfold escapeChar
  split
  case h_8 hreturn _ _ _ =>
    by_cases hlow : c.toNat < 0x20
    · have hhigh := hexDigit_ne_return (c.toNat / 16) (by omega)
      have hrest := hexDigit_ne_return (c.toNat % 16) (by omega)
      rw [if_pos hlow]
      simp [hhigh.symm, hrest.symm]
    · rw [if_neg hlow]
      exact fun h => hreturn (List.mem_singleton.1 h).symm
  all_goals decide

theorem return_not_mem_stringText (s : String) : '\r' ∉ stringText s := by
  simp [stringText, return_not_mem_escapeChar]

theorem return_not_mem_intText (i : Int) : '\r' ∉ intText i := by
  have hdigits : '\r' ∉ Nat.toDigits 10 i.natAbs := by
    intro h
    have hdigit := Nat.isDigit_of_mem_toDigits (by decide) (by decide) h
    exact absurd hdigit (by decide)
  unfold intText
  by_cases hi : i < 0
  · rw [if_pos hi]
    simp [hdigits]
  · rw [if_neg hi]
    exact hdigits

/-- The blanks have no carriage return. -/
def Spacing.NoReturn (sp : Spacing) : Prop := (∀ depth, '\r' ∉ sp.line depth) ∧ '\r' ∉ sp.colon

theorem Spacing.noReturn_compact : Spacing.compact.NoReturn := by
  simp [NoReturn, compact]

theorem Spacing.noReturn_indented (width : Nat) : (Spacing.indented width).NoReturn := by
  simp [NoReturn, indented, lineStart]

variable {sp : Spacing} (hsp : sp.NoReturn)
include hsp

mutual

/-- The text of a plain value has no carriage return if the blanks in it have none. -/
theorem return_not_mem_spacedChars (depth : Nat) : ∀ {j : Json}, j.IsPlain →
    '\r' ∉ spacedChars sp depth j
  | .null, _ | .bool true, _ | .bool false, _ | .arr [], _ | .obj [], _ => by
    simp [spacedChars]
  | .int i, _ => return_not_mem_intText i
  | .str s, _ => return_not_mem_stringText s
  | .arr (j :: rest), ⟨hj, hrest⟩ => by
    have hhead := return_not_mem_spacedChars (depth + 1) hj
    have htail := return_not_mem_spacedItems depth hrest
    simp [spacedChars, hsp.1, hhead, htail]
  | .obj ((k, v) :: rest), ⟨_, hv, hrest⟩ => by
    have hhead := return_not_mem_spacedChars (depth + 1) hv
    have htail := return_not_mem_spacedFields depth hrest
    simp [spacedChars, hsp.1, hsp.2, return_not_mem_stringText, hhead, htail]

theorem return_not_mem_spacedItems (depth : Nat) : ∀ {js : List Json}, IsPlainList js →
    '\r' ∉ spacedItems sp depth js
  | [], _ => by simp [spacedItems, hsp.1]
  | j :: rest, ⟨hj, hrest⟩ => by
    have hhead := return_not_mem_spacedChars (depth + 1) hj
    have htail := return_not_mem_spacedItems depth hrest
    simp [spacedItems, hsp.1, hhead, htail]

theorem return_not_mem_spacedFields (depth : Nat) : ∀ {fs : List (String × Json)},
    IsPlainFields fs → '\r' ∉ spacedFields sp depth fs
  | [], _ => by simp [spacedFields, hsp.1]
  | (k, v) :: rest, ⟨hv, hrest⟩ => by
    have hhead := return_not_mem_spacedChars (depth + 1) hv
    have htail := return_not_mem_spacedFields depth hrest
    simp [spacedFields, hsp.1, hsp.2, return_not_mem_stringText, hhead, htail]

end

end Json

end StyleUsage
