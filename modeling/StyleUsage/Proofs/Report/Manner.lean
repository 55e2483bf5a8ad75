import StyleUsage.Proofs.Collection.Traversal
import StyleUsage.Report.Manner

/-!
# Descriptions of manners

Every text has a plain form as the description of a manner of writing, since a text that describes
none is taken as a name. The one exception is a color whose numbers are missing, and it ends with a
bracket; so a text without a closing bracket always has a plain form (`exists_plainForm`).
-/

namespace StyleUsage

namespace Text

/-- What is true of the characters below a bound can be checked number by number. -/
theorem forall_char_lt {P : Char → Prop} {bound : Nat} (h : ∀ n < bound, P (Char.ofNat n))
    {c : Char} (hc : c.toNat < bound) : P c := by
  have hchar := h c.toNat hc
  rwa [Char.ofNat_toNat] at hchar

theorem le_of_smallCode? {n m : Nat} (h : smallCode? n = some m) : 0x61 ≤ m := by
  have himages : ∀ row ∈ smallLetterRows, 0x61 ≤ row.2.2.2 := by decide +kernel
  unfold smallCode? at h
  obtain ⟨⟨first, last, step, image⟩, hrow, rfl⟩ := Option.map_eq_some_iff.1 h
  exact Nat.le_add_right_of_le (himages _ (List.mem_of_find?_eq_some hrow))

/-- No other character has a closing bracket as its small form. -/
theorem eq_of_mem_smallForm {before after : List Char} {c : Char}
    (h : ')' ∈ smallForm before c after) : c = ')' := by
  unfold smallForm at h
  split at h
  · next hascii =>
    have hc : c.toLower = ')' → c = ')' :=
      forall_char_lt (P := fun c => c.toLower = ')' → c = ')') (by decide) hascii
    exact hc (List.mem_singleton.1 h).symm
  · split at h
    · exact absurd h (by decide)
    · split at h
      · split at h <;> exact absurd h (by decide)
      · have hc := List.mem_singleton.1 h
        cases hcode : smallCode? c.toNat with
        | none =>
          rw [hcode] at hc
          exact hc.symm
        | some m =>
          rw [hcode] at hc
          have hm := le_of_smallCode? hcode
          by_cases hvalid : m.isValidChar
          · have hchar : Char.ofNat m = Char.ofNatAux m hvalid := dif_pos hvalid
            have hvalue : (0x29 : Nat) = m := congrArg Char.toNat (hc.trans hchar)
            omega
          · have hnull : Char.ofNat m = '\x00' := dif_neg hvalid
            exact absurd (hc.trans hnull) (by decide)

theorem mem_of_mem_lower {cs : List Char} (h : ')' ∈ lower cs) : ')' ∈ cs := by
  have hafter : ∀ (cs before : List Char), ')' ∈ lowerAfter before cs → ')' ∈ cs := by
    intro cs
    induction cs with
    | nil => exact fun _ h => h
    | cons c cs ih =>
      intro before h
      rcases List.mem_append.1 h with h | h
      · exact List.mem_cons.2 (.inl (eq_of_mem_smallForm h).symm)
      · exact List.mem_cons_of_mem c (ih _ h)
  exact hafter cs [] h

theorem mem_of_mem_parts {separator c : Char} {cs part : List Char} (h : part ∈ parts separator cs)
    (hc : c ∈ part) : c ∈ cs := by
  induction cs generalizing part with
  | nil =>
    rw [List.mem_singleton.1 h] at hc
    cases hc
  | cons d cs ih =>
    unfold parts at h
    split at h
    · rcases List.mem_cons.1 h with rfl | h
      · cases hc
      · exact List.mem_cons_of_mem d (ih h hc)
    · split at h
      · next first more hparts =>
        rcases List.mem_cons.1 h with rfl | h
        · rcases List.mem_cons.1 hc with rfl | hc
          · exact List.mem_cons_self
          · exact List.mem_cons_of_mem d (ih (hparts ▸ List.mem_cons_self) hc)
        · exact List.mem_cons_of_mem d (ih (hparts ▸ List.mem_cons_of_mem _ h) hc)
      · rw [List.mem_singleton.1 h, List.mem_singleton] at hc
        exact List.mem_cons.2 (.inl hc)

end Text

namespace Report.Manner

/-- Numbers are looked for only in a word that ends with a bracket. -/
theorem readColor_ne_missingNumber {word : List Char} (h : ')' ∉ word) :
    readColor word ≠ .error .missingNumber := by
  have hrgb : inBrackets? "rgb" (Text.lower word) = none := by
    unfold inBrackets?
    dsimp only
    refine if_neg fun hcond => h (Text.mem_of_mem_lower (List.mem_of_getLast? ?_))
    exact beq_iff_eq.1 (Bool.and_eq_true_iff.1 hcond).2
  unfold readColor
  dsimp only
  rw [hrgb]
  split <;> exact nofun

theorem readWords_ne_missingNumber {words : List (List Char)} (h : ∀ word ∈ words, ')' ∉ word)
    (m : Manner) : readWords m words ≠ .error .missingNumber := by
  induction hlen : words.length using Nat.strongRecOn generalizing words m with
  | ind n ih =>
    subst hlen
    -- Each step takes one word or two, and the rest is shorter.
    have hstep : ∀ (before rest : List (List Char)) (m : Manner), words = before ++ rest →
        before ≠ [] → readWords m rest ≠ .error .missingNumber := by
      rintro before rest m rfl hbefore
      refine ih rest.length ?_ (fun word hword => h word (List.mem_append_right _ hword)) m rfl
      have := List.length_pos_iff.2 hbefore
      rw [List.length_append]
      omega
    cases words with
    | nil => exact nofun
    | cons word rest =>
      obtain ⟨hword, hrest⟩ := List.forall_mem_cons.1 h
      intro herror
      unfold readWords at herror
      dsimp only at herror
      split at herror
      · split at herror
        · cases herror
        · next color rest =>
          rcases bind_eq_error_iff.1 herror with herror | ⟨ground, -, herror⟩
          · exact readColor_ne_missingNumber (hrest color List.mem_cons_self) herror
          · exact hstep [word, color] rest _ rfl nofun herror
      · split at herror
        · split at herror
          · cases herror
          · next excluded rest =>
            split at herror
            · exact hstep [word, excluded] rest _ rfl nofun herror
            · cases herror
        · split at herror
          · split at herror
            · cases herror
            · next target rest => exact hstep [word, target] rest _ rfl nofun herror
          · split at herror
            · exact hstep [word] rest _ rfl nofun herror
            · rcases bind_eq_error_iff.1 herror with herror | ⟨color, -, herror⟩
              · exact readColor_ne_missingNumber hword herror
              · exact hstep [word] rest _ rfl nofun herror

/-- Every text without a closing bracket has a plain form. -/
theorem exists_plainForm {cs : List Char} (h : ')' ∉ cs) : ∃ form, plainForm cs = .ok form := by
  have hwords : ∀ word ∈ words cs, ')' ∉ word := by
    intro word hword hc
    have hmap := Text.mem_of_mem_parts (List.mem_of_mem_filter hword) hc
    obtain ⟨c, hcs, heq⟩ := List.mem_map.1 hmap
    split at heq
    · exact absurd heq (by decide)
    · exact h (heq ▸ hcs)
  have hread : read cs ≠ .error .missingNumber := by
    unfold read
    dsimp only
    split
    · exact nofun
    · exact readWords_ne_missingNumber hwords _
  unfold plainForm
  cases hm : read cs with
  | ok m => exact ⟨_, rfl⟩
  | error e =>
    cases e with
    | unknown => exact ⟨_, rfl⟩
    | missingNumber => exact absurd hm hread

end Report.Manner

end StyleUsage
