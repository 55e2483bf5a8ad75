import StyleUsage.Proofs.Walk.Accepted

/-!
# How references are written

A reference is the alias of a block with the fragment of a style behind it, blanks around both aside
(`StyleRef.WrittenAs`). The fragment begins with a character that no alias has, so a reference is
written for one style only, and it is resolved to that style exactly if the script declares it
(`resolve_ok_iff_writtenAs`).
-/

namespace StyleUsage

def BeginsFragment (cs : List Char) : Prop := ∃ c rest, cs = c :: rest ∧ startsFragment c = true

/-- No character of the text begins a fragment. -/
def IsPlainName (cs : List Char) : Prop := ∀ c ∈ cs, startsFragment c = false

theorem split_append {name fragment : List Char} (hname : IsPlainName name)
    (hfragment : BeginsFragment fragment) :
    (name ++ fragment).takeWhile (fun c => !startsFragment c) = name ∧
      (name ++ fragment).dropWhile (fun c => !startsFragment c) = fragment := by
  obtain ⟨c, rest, rfl, hc⟩ := hfragment
  have hpos : ∀ a ∈ name, (!startsFragment a) = true := by
    intro a ha
    rw [hname a ha]
    rfl
  rw [List.takeWhile_append_of_pos hpos, List.dropWhile_append_of_pos hpos]
  simp [hc]

theorem isPlainName_takeWhile (cs : List Char) :
    IsPlainName (cs.takeWhile fun c => !startsFragment c) := by
  intro c hc
  have hall := List.all_eq_true.1 (List.all_takeWhile (p := fun c => !startsFragment c)) c hc
  simpa using hall

theorem beginsFragment_dropWhile {cs : List Char}
    (h : cs.dropWhile (fun c => !startsFragment c) ≠ []) :
    BeginsFragment (cs.dropWhile fun c => !startsFragment c) := by
  have hhead := List.head_dropWhile_not (fun c => !startsFragment c) h
  refine ⟨_, _, (List.cons_head_tail h).symm, ?_⟩
  simpa using hhead

/-- A reference is the alias of the block and the fragment of the style, blanks around both aside.
Neither is empty, and the fragment has no line feed. -/
structure StyleRef.WrittenAs (x : StyleRef) (reference : String) : Prop where
  strip_eq : Text.strip reference = x.block ++ x.fragment
  block_ne : x.block ≠ ""
  block_plain : IsPlainName x.block.toList
  fragment_starts : BeginsFragment x.fragment.toList
  fragment_line : '\n' ∉ x.fragment.toList

namespace WalkScript

variable {s : WalkScript} {reference : String} {x : StyleRef}

theorem isReference_iff : IsReference reference ↔ (pairOf reference).block ≠ "" ∧
    (pairOf reference).fragment ≠ "" ∧ '\n' ∉ (pairOf reference).fragment.toList := by
  unfold IsReference splitReference pairOf
  dsimp only
  generalize List.takeWhile _ _ = name
  generalize List.dropWhile _ _ = fragment
  simp [String.ofList_eq_empty_iff, and_assoc]

/-- A reference is written for the pair of its parts, if it is one. -/
theorem writtenAs_iff : x.WrittenAs reference ↔ IsReference reference ∧ x = pairOf reference := by
  rw [isReference_iff]
  constructor
  · intro h
    have hchars : Text.stripChars reference.toList = x.block.toList ++ x.fragment.toList := by
      rw [← String.toList_append, ← h.strip_eq]
      exact (String.toList_ofList).symm
    obtain ⟨hname, hfragment⟩ := split_append h.block_plain h.fragment_starts
    have hpair : x = pairOf reference := by
      unfold pairOf
      dsimp only
      rw [hchars, hname, hfragment, String.ofList_toList, String.ofList_toList]
    have hne : x.fragment ≠ "" := by
      intro hempty
      obtain ⟨c, rest, hcons, -⟩ := h.fragment_starts
      rw [hempty] at hcons
      cases hcons
    rw [← hpair]
    exact ⟨⟨h.block_ne, hne, h.fragment_line⟩, rfl⟩
  · rintro ⟨⟨hblock, hfragment, hline⟩, rfl⟩
    refine ⟨?_, hblock, ?_, ?_, hline⟩
    · unfold Text.strip pairOf
      rw [← String.ofList_append, List.takeWhile_append_dropWhile]
    · unfold pairOf
      rw [String.toList_ofList]
      exact isPlainName_takeWhile _
    · unfold pairOf at hfragment ⊢
      rw [String.toList_ofList]
      refine beginsFragment_dropWhile fun hnil => hfragment ?_
      show String.ofList (List.dropWhile _ _) = ""
      rw [hnil]

/-- A reference is resolved to the style that it is written for, if the script declares it. -/
theorem resolve_ok_iff_writtenAs :
    s.resolve reference = .ok x ↔ x.WrittenAs reference ∧ s.Declares x := by
  rw [resolve_ok_iff, writtenAs_iff, and_assoc]

end WalkScript

end StyleUsage
