import StyleUsage.Json.Indented
import StyleUsage.Proofs.Collection.Entries
import StyleUsage.Proofs.Json.Scalar

/-!
# Reading laid out values back

The compact and the indented form of a value differ only in the blanks between its parts. Whatever
these blanks are (`Spacing`), the reader gives the value back from its text, as long as the value is
plain: it has no number with a fraction part, and no object has a key twice. So either form of a
plain value tells the value (`compactChars_injective`).
-/

namespace StyleUsage.Json

/-! ## Plain values -/

mutual

/-- The value has no number with a fraction part, and no object in it has a key twice. -/
def IsPlain : Json → Prop
  | .float _ => False
  | .arr items => IsPlainList items
  | .obj fields => (Entries.keys fields).Nodup ∧ IsPlainFields fields
  | .null => True
  | .bool _ => True
  | .int _ => True
  | .str _ => True
termination_by structural j => j

/-- Every item is plain. -/
def IsPlainList : List Json → Prop
  | [] => True
  | j :: rest => IsPlain j ∧ IsPlainList rest
termination_by structural js => js

def IsPlainFields : List (String × Json) → Prop
  | [] => True
  | (_, v) :: rest => IsPlain v ∧ IsPlainFields rest
termination_by structural fs => fs

end

/-! ## Layouts -/

/-- The blanks between the parts of a text. -/
structure Spacing where
  /-- What stands before an item or a field, or before the end of a collection, at a depth. -/
  line : Nat → List Char
  /-- What stands behind a colon. -/
  colon : List Char
  line_gap : ∀ depth, ∀ c ∈ line depth, isGap c = true
  colon_gap : ∀ c ∈ colon, isGap c = true

/-- No blanks. -/
def Spacing.compact : Spacing where
  line _ := []
  colon := []
  line_gap _ _ h := by cases h
  colon_gap _ h := by cases h

/-- A line for every part, indented by `width` blanks for every level. -/
def Spacing.indented (width : Nat) : Spacing where
  line := lineStart width
  colon := [' ']
  line_gap depth c h := by
    rcases List.mem_cons.1 h with rfl | h
    · rfl
    · rw [List.eq_of_mem_replicate h]
      rfl
  colon_gap c h := by
    rw [List.mem_singleton.1 h]
    rfl

mutual

/-- The text of a value at a depth. -/
def spacedChars (sp : Spacing) (depth : Nat) : Json → List Char
  | .null => ['n', 'u', 'l', 'l']
  | .bool true => ['t', 'r', 'u', 'e']
  | .bool false => ['f', 'a', 'l', 's', 'e']
  | .int i => intText i
  | .float x => floatText x
  | .str s => stringText s
  | .arr [] => ['[', ']']
  | .arr (j :: rest) =>
    '[' :: sp.line (depth + 1) ++ spacedChars sp (depth + 1) j ++ spacedItems sp depth rest
  | .obj [] => ['{', '}']
  | .obj ((k, v) :: rest) =>
    '{' :: sp.line (depth + 1) ++ stringText k ++ ':' :: sp.colon ++ spacedChars sp (depth + 1) v ++
      spacedFields sp depth rest
termination_by structural j => j

def spacedItems (sp : Spacing) (depth : Nat) : List Json → List Char
  | [] => sp.line depth ++ [']']
  | j :: rest =>
    ',' :: sp.line (depth + 1) ++ spacedChars sp (depth + 1) j ++ spacedItems sp depth rest
termination_by structural js => js

/-- The further fields of an object and its end. -/
def spacedFields (sp : Spacing) (depth : Nat) : List (String × Json) → List Char
  | [] => sp.line depth ++ ['}']
  | (k, v) :: rest =>
    ',' :: sp.line (depth + 1) ++ stringText k ++ ':' :: sp.colon ++
      spacedChars sp (depth + 1) v ++ spacedFields sp depth rest
termination_by structural fs => fs

end

mutual

theorem spacedChars_compact (depth : Nat) : ∀ j, spacedChars .compact depth j = compactChars j
  | .null | .bool true | .bool false | .int _ | .float _ | .str _ | .arr [] | .obj [] => rfl
  | .arr (j :: rest) => by
    rw [spacedChars, compactChars, spacedChars_compact (depth + 1) j,
      spacedItems_compact depth rest]
    rfl
  | .obj ((k, v) :: rest) => by
    rw [spacedChars, compactChars, spacedChars_compact (depth + 1) v,
      spacedFields_compact depth rest]
    simp [Spacing.compact]

theorem spacedItems_compact (depth : Nat) : ∀ js, spacedItems .compact depth js = compactItems js
  | [] => rfl
  | j :: rest => by
    rw [spacedItems, compactItems, spacedChars_compact (depth + 1) j,
      spacedItems_compact depth rest]
    rfl

theorem spacedFields_compact (depth : Nat) : ∀ fs, spacedFields .compact depth fs = compactFields fs
  | [] => rfl
  | (k, v) :: rest => by
    rw [spacedFields, compactFields, spacedChars_compact (depth + 1) v,
      spacedFields_compact depth rest]
    simp [Spacing.compact]

end

mutual

theorem spacedChars_indented (width depth : Nat) :
    ∀ j, spacedChars (.indented width) depth j = indentedChars width depth j
  | .null | .bool true | .bool false | .int _ | .float _ | .str _ | .arr [] | .obj [] => rfl
  | .arr (j :: rest) => by
    rw [spacedChars, indentedChars, spacedChars_indented width (depth + 1) j,
      spacedItems_indented width depth rest]
    rfl
  | .obj ((k, v) :: rest) => by
    rw [spacedChars, indentedChars, spacedChars_indented width (depth + 1) v,
      spacedFields_indented width depth rest]
    simp [Spacing.indented]

theorem spacedItems_indented (width depth : Nat) :
    ∀ js, spacedItems (.indented width) depth js = indentedItems width depth js
  | [] => rfl
  | j :: rest => by
    rw [spacedItems, indentedItems, spacedChars_indented width (depth + 1) j,
      spacedItems_indented width depth rest]
    rfl

theorem spacedFields_indented (width depth : Nat) :
    ∀ fs, spacedFields (.indented width) depth fs = indentedFields width depth fs
  | [] => rfl
  | (k, v) :: rest => by
    rw [spacedFields, indentedFields, spacedChars_indented width (depth + 1) v,
      spacedFields_indented width depth rest]
    simp [Spacing.indented]

end

/-! ## Blanks and ends -/

theorem skipGap_append {gap : List Char} (h : ∀ c ∈ gap, isGap c = true) (rest : List Char) :
    skipGap (gap ++ rest) = skipGap rest := by
  unfold skipGap
  rw [List.dropWhile_append_of_pos h]

theorem skipGap_cons {c : Char} (h : isGap c = false) (rest : List Char) :
    skipGap (c :: rest) = c :: rest := by
  unfold skipGap
  rw [List.dropWhile_cons_of_neg (by rw [h]; exact Bool.false_ne_true)]

theorem isGap_cases {c : Char} (h : isGap c = true) :
    c = ' ' ∨ c = '\t' ∨ c = '\n' ∨ c = '\r' := by
  simpa [isGap, or_assoc] using h

theorem isGap_of_isDigit {c : Char} (h : c.isDigit = true) : isGap c = false := by
  cases hgap : isGap c with
  | false => rfl
  | true => rcases isGap_cases hgap with rfl | rfl | rfl | rfl <;> exact absurd h (by decide)

theorem endsNumber_nil : EndsNumber [] := by
  intro c tail h
  cases h

theorem endsNumber_cons {c : Char} (h : c = ',' ∨ c = ']' ∨ c = '}' ∨ isGap c = true)
    (rest : List Char) : EndsNumber (c :: rest) := by
  intro c' tail heq
  obtain rfl := (List.cons.inj heq).1
  rcases h with rfl | rfl | rfl | h
  · decide
  · decide
  · decide
  · rcases isGap_cases h with rfl | rfl | rfl | rfl <;> decide

theorem endsNumber_append {gap rest : List Char} (h : ∀ c ∈ gap, isGap c = true)
    (hrest : EndsNumber rest) : EndsNumber (gap ++ rest) := by
  cases gap with
  | nil => exact hrest
  | cons c gap => exact endsNumber_cons (.inr (.inr (.inr (h c List.mem_cons_self)))) _

theorem endsNumber_items (sp : Spacing) (depth : Nat) (js : List Json) (rest : List Char) :
    EndsNumber (spacedItems sp depth js ++ rest) := by
  cases js with
  | nil =>
    rw [spacedItems, List.append_assoc]
    exact endsNumber_append (sp.line_gap depth) (endsNumber_cons (.inr (.inl rfl)) rest)
  | cons j js => exact endsNumber_cons (.inl rfl) _

theorem endsNumber_fields (sp : Spacing) (depth : Nat) (fs : List (String × Json))
    (rest : List Char) : EndsNumber (spacedFields sp depth fs ++ rest) := by
  cases fs with
  | nil =>
    rw [spacedFields, List.append_assoc]
    exact endsNumber_append (sp.line_gap depth) (endsNumber_cons (.inr (.inr (.inl rfl))) rest)
  | cons f fs => exact endsNumber_cons (.inl rfl) _

/-- The text of a plain value begins with no blank and no byte order mark, and ends no list. -/
theorem spacedChars_cases (sp : Spacing) (depth : Nat) {j : Json} (h : j.IsPlain) :
    ∃ c tail, spacedChars sp depth j = c :: tail ∧ isGap c = false ∧ c ≠ ']' ∧ c ≠ '\uFEFF' := by
  cases j with
  | null => exact ⟨_, _, rfl, rfl, by decide⟩
  | bool b => cases b <;> exact ⟨_, _, rfl, rfl, by decide⟩
  | int i =>
    obtain ⟨d, ds, hdigit, -, ⟨-, htext⟩ | ⟨-, htext⟩⟩ := intText_cases i
    · refine ⟨d, ds, htext, isGap_of_isDigit hdigit, ?_, ?_⟩ <;>
        (rintro rfl; exact absurd hdigit (by decide))
    · exact ⟨_, _, htext, rfl, by decide⟩
  | float x => exact h.elim
  | str s => exact ⟨_, _, rfl, rfl, by decide⟩
  | arr items => cases items <;> exact ⟨_, _, rfl, rfl, by decide⟩
  | obj fields => cases fields <;> exact ⟨_, _, rfl, rfl, by decide⟩

theorem skipGap_spaced (sp : Spacing) (depth : Nat) {j : Json} (h : j.IsPlain) (rest : List Char) :
    skipGap (spacedChars sp depth j ++ rest) = spacedChars sp depth j ++ rest := by
  obtain ⟨c, tail, htext, hgap, -, -⟩ := spacedChars_cases sp depth h
  rw [htext, List.cons_append, skipGap_cons hgap]

theorem length_spaced_pos (sp : Spacing) (depth : Nat) {j : Json} (h : j.IsPlain) :
    0 < (spacedChars sp depth j).length := by
  obtain ⟨c, tail, htext, -, -, -⟩ := spacedChars_cases sp depth h
  rw [htext]
  exact Nat.zero_lt_succ _

theorem skipGap_items_nil (sp : Spacing) (depth : Nat) (rest : List Char) :
    skipGap (spacedItems sp depth [] ++ rest) = ']' :: rest := by
  rw [spacedItems, List.append_assoc, skipGap_append (sp.line_gap depth)]
  exact skipGap_cons rfl rest

theorem skipGap_items_cons (sp : Spacing) (depth : Nat) (j : Json) (js : List Json)
    (rest : List Char) :
    skipGap (spacedItems sp depth (j :: js) ++ rest) = ',' :: (sp.line (depth + 1) ++
      (spacedChars sp (depth + 1) j ++ (spacedItems sp depth js ++ rest))) := by
  simp only [spacedItems, List.append_assoc, List.cons_append]
  exact skipGap_cons rfl _

theorem skipGap_fields_nil (sp : Spacing) (depth : Nat) (rest : List Char) :
    skipGap (spacedFields sp depth [] ++ rest) = '}' :: rest := by
  rw [spacedFields, List.append_assoc, skipGap_append (sp.line_gap depth)]
  exact skipGap_cons rfl rest

theorem skipGap_fields_cons (sp : Spacing) (depth : Nat) (k : String) (v : Json)
    (fs : List (String × Json)) (rest : List Char) :
    skipGap (spacedFields sp depth ((k, v) :: fs) ++ rest) = ',' :: (sp.line (depth + 1) ++
      (stringText k ++ (':' :: (sp.colon ++ (spacedChars sp (depth + 1) v ++
        (spacedFields sp depth fs ++ rest)))))) := by
  simp only [spacedFields, List.append_assoc, List.cons_append]
  exact skipGap_cons rfl _

theorem skipGap_line_string (sp : Spacing) (depth : Nat) (k : String) (rest : List Char) :
    skipGap (sp.line depth ++ (stringText k ++ rest)) = stringText k ++ rest := by
  rw [skipGap_append (sp.line_gap depth)]
  exact skipGap_cons rfl _

theorem skipGap_line_spaced (sp : Spacing) (depth : Nat) {j : Json} (h : j.IsPlain)
    (rest : List Char) :
    skipGap (sp.line depth ++ (spacedChars sp depth j ++ rest)) =
      spacedChars sp depth j ++ rest := by
  rw [skipGap_append (sp.line_gap depth), skipGap_spaced sp depth h]

theorem skipGap_colon_spaced (sp : Spacing) (depth : Nat) {j : Json} (h : j.IsPlain)
    (rest : List Char) :
    skipGap (sp.colon ++ (spacedChars sp depth j ++ rest)) = spacedChars sp depth j ++ rest := by
  rw [skipGap_append sp.colon_gap, skipGap_spaced sp depth h]

/-! ## Steps of the reader -/

section Steps

variable {fuel : Nat} {done : List Json} {fields : List (String × Json)} {j : Json}
  {key : String} {c : Char} {cs rest tail : List Char}

theorem readValue_list (h : skipGap cs = c :: tail) (hc : c ≠ ']') :
    readValue (fuel + 1) ('[' :: cs) =
      (readItems fuel [] (c :: tail)).map fun (js, rest) => (.arr js, rest) := by
  simp only [readValue, h]
  split
  · next heq => exact absurd (List.cons.inj heq).1 hc
  · rfl

theorem readValue_object (h : skipGap cs = stringText key ++ tail) :
    readValue (fuel + 1) ('{' :: cs) =
      (readFields fuel [] (stringText key ++ tail)).map fun (fs, rest) => (.obj fs, rest) := by
  simp only [stringText, List.cons_append] at h ⊢
  simp only [readValue, h]
  rfl

theorem readItems_last (hj : readValue fuel cs = .ok (j, rest)) (h : skipGap rest = ']' :: tail) :
    readItems (fuel + 1) done cs = .ok ((j :: done).reverse, tail) := by
  simp [readItems, hj, h]

theorem readItems_more (hj : readValue fuel cs = .ok (j, rest)) (h : skipGap rest = ',' :: tail) :
    readItems (fuel + 1) done cs = readItems fuel (j :: done) (skipGap tail) := by
  simp [readItems, hj, h]

theorem readFields_last (hj : readValue fuel (skipGap cs) = .ok (j, rest))
    (h : skipGap rest = '}' :: tail) :
    readFields (fuel + 1) fields (stringText key ++ (':' :: cs)) =
      .ok (Entries.put fields key j, tail) := by
  have hkey := readString_stringText key (':' :: cs)
  have hcolon : skipGap (':' :: cs) = ':' :: cs := skipGap_cons rfl cs
  simp only [stringText, List.cons_append] at hkey ⊢
  simp only [readFields, hkey, hcolon, hj, h]

theorem readFields_more (hj : readValue fuel (skipGap cs) = .ok (j, rest))
    (h : skipGap rest = ',' :: tail) :
    readFields (fuel + 1) fields (stringText key ++ (':' :: cs)) =
      readFields fuel (Entries.put fields key j) (skipGap tail) := by
  have hkey := readString_stringText key (':' :: cs)
  have hcolon : skipGap (':' :: cs) = ':' :: cs := skipGap_cons rfl cs
  simp only [stringText, List.cons_append] at hkey ⊢
  simp only [readFields, hkey, hcolon, hj, h]

end Steps

/-! ## Reading back -/

mutual

/-- A plain value is read back from its text, if that is where a number ends. -/
theorem readValue_spaced (sp : Spacing) : ∀ (j : Json) (depth fuel : Nat) (rest : List Char),
    j.IsPlain → EndsNumber rest → 2 * (spacedChars sp depth j).length ≤ fuel + 1 →
    readValue (fuel + 1) (spacedChars sp depth j ++ rest) = .ok (j, rest)
  | .null, _, _, _, _, _, _ => rfl
  | .bool true, _, _, _, _, _, _ => rfl
  | .bool false, _, _, _, _, _, _ => rfl
  | .int i, _, fuel, _, _, hrest, _ => readValue_intText fuel i hrest
  | .str s, _, fuel, rest, _, _, _ => by
    show (readString (stringText s ++ rest)).map (fun (s, rest) => (Json.str s, rest)) = _
    rw [readString_stringText]
    rfl
  | .arr [], _, _, _, _, _, _ => rfl
  | .arr (j :: js), depth, fuel, rest, ⟨hj, hjs⟩, _, hfuel => by
    obtain ⟨c, tail, htext, -, hc, -⟩ := spacedChars_cases sp (depth + 1) hj
    have hlen : 2 * (spacedChars sp (depth + 1) j ++ spacedItems sp depth js).length ≤ fuel := by
      simp only [spacedChars, List.length_append, List.length_cons] at hfuel ⊢
      omega
    have hskip := skipGap_line_spaced sp (depth + 1) hj (spacedItems sp depth js ++ rest)
    have hread := readItems_spaced sp j js depth fuel [] rest hj hjs hlen
    simp only [spacedChars, List.append_assoc, List.cons_append]
    rw [htext, List.cons_append] at hskip hread ⊢
    rw [readValue_list hskip hc, hread]
    rfl
  | .obj [], _, _, _, _, _, _ => rfl
  | .obj ((k, v) :: fs), depth, fuel, rest, ⟨hkeys, hv, hfs⟩, _, hfuel => by
    have hlen : 2 * (stringText k ++ ':' :: sp.colon ++ spacedChars sp (depth + 1) v ++
        spacedFields sp depth fs).length ≤ fuel := by
      simp only [spacedChars, List.length_append, List.length_cons] at hfuel ⊢
      omega
    have hread := readFields_spaced sp k v fs depth fuel [] rest hkeys hv hfs hlen
    simp only [spacedChars, List.append_assoc, List.cons_append]
    rw [readValue_object (skipGap_line_string sp (depth + 1) k _), hread]
    rfl
termination_by j => sizeOf j

theorem readItems_spaced (sp : Spacing) : ∀ (j : Json) (js : List Json) (depth fuel : Nat)
    (done : List Json) (rest : List Char), j.IsPlain → IsPlainList js →
    2 * (spacedChars sp (depth + 1) j ++ spacedItems sp depth js).length ≤ fuel →
    readItems fuel done (spacedChars sp (depth + 1) j ++ (spacedItems sp depth js ++ rest)) =
      .ok (done.reverse ++ j :: js, rest)
  | j, [], depth, fuel, done, rest, hj, _, hfuel => by
    have hpos := length_spaced_pos sp (depth + 1) hj
    simp only [List.length_append, spacedItems, List.length_cons] at hfuel
    obtain ⟨fuel, rfl⟩ : ∃ n, fuel = n + 2 := ⟨fuel - 2, by omega⟩
    have hend := endsNumber_items sp depth [] rest
    have hread := readValue_spaced sp j (depth + 1) fuel _ hj hend (by omega)
    rw [readItems_last hread (skipGap_items_nil sp depth rest), List.reverse_cons]
  | j, j' :: js, depth, fuel, done, rest, hj, ⟨hj', hjs⟩, hfuel => by
    have hpos := length_spaced_pos sp (depth + 1) hj
    simp only [List.length_append, spacedItems, List.length_cons] at hfuel
    obtain ⟨fuel, rfl⟩ : ∃ n, fuel = n + 2 := ⟨fuel - 2, by omega⟩
    have hend := endsNumber_items sp depth (j' :: js) rest
    have hread := readValue_spaced sp j (depth + 1) fuel _ hj hend (by omega)
    have hrest := readItems_spaced sp j' js depth (fuel + 1) (j :: done) rest hj' hjs
      (by rw [List.length_append]; omega)
    rw [readItems_more hread (skipGap_items_cons sp depth j' js rest),
      skipGap_line_spaced sp (depth + 1) hj', hrest, List.reverse_cons, List.append_assoc]
    rfl
termination_by j js => sizeOf j + sizeOf js

theorem readFields_spaced (sp : Spacing) : ∀ (k : String) (v : Json) (fs : List (String × Json))
    (depth fuel : Nat) (done : List (String × Json)) (rest : List Char),
    (Entries.keys (done ++ (k, v) :: fs)).Nodup → v.IsPlain → IsPlainFields fs →
    2 * (stringText k ++ ':' :: sp.colon ++ spacedChars sp (depth + 1) v ++
      spacedFields sp depth fs).length ≤ fuel →
    readFields fuel done (stringText k ++ (':' :: (sp.colon ++
      (spacedChars sp (depth + 1) v ++ (spacedFields sp depth fs ++ rest))))) =
      .ok (done ++ (k, v) :: fs, rest)
  | k, v, [], depth, fuel, done, rest, hkeys, hv, _, hfuel => by
    have hpos := length_spaced_pos sp (depth + 1) hv
    simp only [List.length_append, spacedFields, List.length_cons] at hfuel
    obtain ⟨fuel, rfl⟩ : ∃ n, fuel = n + 2 := ⟨fuel - 2, by omega⟩
    have hnew := Entries.not_mem_keys_of_nodup hkeys
    have hend := endsNumber_fields sp depth [] rest
    have hread := readValue_spaced sp v (depth + 1) fuel _ hv hend (by omega)
    rw [← skipGap_colon_spaced sp (depth + 1) hv] at hread
    rw [readFields_last hread (skipGap_fields_nil sp depth rest), Entries.put_of_not_mem k v hnew]
  | k, v, (k', v') :: fs, depth, fuel, done, rest, hkeys, hv, ⟨hv', hfs⟩, hfuel => by
    have hpos := length_spaced_pos sp (depth + 1) hv
    simp only [List.length_append, spacedFields, List.length_cons] at hfuel
    obtain ⟨fuel, rfl⟩ : ∃ n, fuel = n + 2 := ⟨fuel - 2, by omega⟩
    have hnew := Entries.not_mem_keys_of_nodup hkeys
    have hend := endsNumber_fields sp depth ((k', v') :: fs) rest
    have hread := readValue_spaced sp v (depth + 1) fuel _ hv hend (by omega)
    have hassoc : done ++ (k, v) :: (k', v') :: fs = done ++ [(k, v)] ++ (k', v') :: fs := by
      rw [List.append_assoc]
      rfl
    have hrest := readFields_spaced sp k' v' fs depth (fuel + 1) (done ++ [(k, v)]) rest
      (hassoc ▸ hkeys) hv' hfs (by simp only [List.length_append, List.length_cons]; omega)
    rw [← skipGap_colon_spaced sp (depth + 1) hv] at hread
    rw [readFields_more hread (skipGap_fields_cons sp depth k' v' fs rest),
      Entries.put_of_not_mem k v hnew, skipGap_line_string sp (depth + 1), hrest, hassoc]
termination_by _ v fs => sizeOf v + sizeOf fs

end

theorem readChars_of_head {c : Char} (h : c ≠ '\uFEFF') (hgap : isGap c = false)
    {tail rest : List Char} {j : Json}
    (hread : readValue (2 * (c :: tail).length + 2) (c :: tail) = .ok (j, rest))
    (hrest : ∀ c ∈ rest, isGap c = true) : readChars (c :: tail) = .ok j := by
  have hskip : skipGap rest = [] := by
    unfold skipGap
    rw [← List.append_nil rest, List.dropWhile_append_of_pos hrest]
    rfl
  unfold readChars
  split
  · next heq => exact absurd (List.cons.inj heq).1 h
  · rw [skipGap_cons hgap, hread]
    dsimp only
    rw [hskip]

/-- A plain value is read back from its text, blanks behind it aside. -/
theorem readChars_spaced (sp : Spacing) {j : Json} (h : j.IsPlain) {gap : List Char}
    (hgap : ∀ c ∈ gap, isGap c = true) : readChars (spacedChars sp 0 j ++ gap) = .ok j := by
  have hend : EndsNumber gap := by
    rw [← List.append_nil gap]
    exact endsNumber_append hgap endsNumber_nil
  have hread := readValue_spaced sp j 0 (2 * (spacedChars sp 0 j ++ gap).length + 1) gap h hend
    (by rw [List.length_append]; omega)
  obtain ⟨c, tail, htext, hc, -, hmark⟩ := spacedChars_cases sp 0 h
  rw [htext, List.cons_append] at hread ⊢
  exact readChars_of_head hmark hc hread hgap

theorem readChars_compact {j : Json} (h : j.IsPlain) : readChars j.compactChars = .ok j := by
  rw [← spacedChars_compact 0 j, ← List.append_nil (spacedChars .compact 0 j)]
  exact readChars_spaced .compact h (by simp)

/-- Plain values with one compact text are one value. -/
theorem compactChars_injective {j j' : Json} (h : j.IsPlain) (h' : j'.IsPlain)
    (heq : j.compactChars = j'.compactChars) : j = j' := by
  have hread := readChars_compact h
  rw [heq, readChars_compact h'] at hread
  exact (Except.ok.inj hread).symm

end StyleUsage.Json
