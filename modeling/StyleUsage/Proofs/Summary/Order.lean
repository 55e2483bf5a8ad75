import StyleUsage.Proofs.Summary.Canonical

/-!
# The order of correlations in a canonical text

Summaries that differ in their correlations alone have one canonical text exactly if their
correlations are the same in the same order (`canonical_eq_iff_correlations`), whatever the template
keeps, as long as it can be written at all.
-/

namespace StyleUsage

/-! ## Texts that differ in one field -/

namespace Json

theorem compactFields_eq_iff (pre post : List (String × Json)) (key : String) (v w : Json) :
    compactFields (pre ++ (key, v) :: post) = compactFields (pre ++ (key, w) :: post) ↔
      compactChars v = compactChars w := by
  induction pre with
  | nil =>
    simp only [List.nil_append, compactFields, List.append_assoc, List.cons_append,
      List.cons.injEq, true_and, List.append_cancel_left_eq, List.append_cancel_right_eq]
  | cons p pre ih =>
    rw [← ih]
    simp only [List.cons_append, compactFields, List.append_assoc, List.cons.injEq, true_and,
      List.append_cancel_left_eq]

/-- Objects that differ in one field other than the first have one text exactly if the values of
the field have. -/
theorem compact_obj_eq_iff (first : String × Json) (pre post : List (String × Json)) (key : String)
    (v w : Json) :
    (obj (first :: (pre ++ (key, v) :: post))).compact =
      (obj (first :: (pre ++ (key, w) :: post))).compact ↔ compactChars v = compactChars w := by
  rw [← compactFields_eq_iff pre post key v w]
  unfold compact
  rw [String.ofList_inj]
  simp only [compactChars, List.cons_append, List.append_assoc, List.cons.injEq, true_and,
    List.append_cancel_left_eq]

end Json

namespace Datum

theorem jsonEntries_map (fields : List (String × Datum)) :
    jsonEntries [] (fields.map fun p => (.str p.1, p.2)) =
      (fields.map fun p => (p.1, jsonWithin [] p.2)).map fun p => (.str p.1, p.2) := by
  induction fields with
  | nil => rfl
  | cons p fields ih => exact congrArg ((Datum.str p.1, jsonWithin [] p.2) :: ·) ih

/-- An object is written with its fields in the order of their names. -/
theorem sortedJson_ofFields {fields sorted : List (String × Datum)}
    (hkeys : (Entries.keys fields).Nodup) (hperm : fields.Perm sorted)
    (hsorted : sorted.Pairwise fun p q => Entries.keyLE p q = true) :
    (Datum.ofFields fields).sortedJson =
      (sorted.mapM fun p => (jsonWithin [] p.2).map fun j => (p.1, j)).map .obj := by
  have hsort : (fields.map fun p => (p.1, jsonWithin [] p.2)).mergeSort Entries.keyLE =
      sorted.map fun p => (p.1, jsonWithin [] p.2) := by
    rw [← (Entries.sorted_eq_iff_perm hkeys).2 hperm |>.trans (List.mergeSort_of_pairwise hsorted)]
    exact Entries.mergeSort_mapValues (jsonWithin []) fields
  show (fieldsOf (jsonEntries [] (fields.map fun p => (.str p.1, p.2)))).map Json.obj = _
  rw [jsonEntries_map, fieldsOf_text, hsort, List.mapM_map]
  rfl

/-- The order of its fields does not show in how an object is written. -/
theorem jsonWithin_ofFields_perm {fields fields' : List (String × Datum)}
    (hkeys : (Entries.keys fields).Nodup) (hperm : fields.Perm fields') :
    jsonWithin [] (ofFields fields) = jsonWithin [] (ofFields fields') := by
  have hkeys' : (Entries.keys (fields.map fun p => (p.1, jsonWithin [] p.2))).Nodup :=
    (Entries.keys_mapValues (jsonWithin []) fields).symm ▸ hkeys
  show (fieldsOf (jsonEntries [] (fields.map fun p => (.str p.1, p.2)))).map Json.obj =
    (fieldsOf (jsonEntries [] (fields'.map fun p => (.str p.1, p.2)))).map Json.obj
  rw [jsonEntries_map, jsonEntries_map, fieldsOf_text, fieldsOf_text,
    (Entries.sorted_eq_iff_perm hkeys').2 (hperm.map _)]

end Datum

namespace Summary

theorem eq_of_parts {s s' : Summary} (htemplate : s.template = s'.template)
    (hblocks : s.blocks = s'.blocks) (hfound : s.stylesFound = s'.stylesFound)
    (hdynamic : s.dynamicStyles = s'.dynamicStyles)
    (hcorrelations : s.styleCorrelations = s'.styleCorrelations) : s = s' := by
  cases s
  cases s'
  cases htemplate
  cases hblocks
  cases hfound
  cases hdynamic
  cases hcorrelations
  rfl

def parts (s : Summary) : List (String × Datum) :=
  [("blocks", .ofFields (Entries.mapValues .str s.blocks)),
    ("dynamicStyles", ofPlaces s.dynamicStyles),
    ("styleCorrelations", .list none (s.styleCorrelations.map ofPlaces)),
    ("stylesFound", .ofStrings s.stylesFound),
    ("template", s.template.toDatum)]

/-- The JSON value of a summary has its parts in order. -/
theorem sortedJson_toDatum (s : Summary) : s.toDatum.sortedJson =
    (s.parts.mapM fun p => (Datum.jsonWithin [] p.2).map fun j => (p.1, j)).map .obj := by
  apply Datum.sortedJson_ofFields
  · simp [Entries.keys]
  · rw [Entries.perm_iff_subset (by simp [Entries.keys])]
    simp [parts]
  · simp [parts, Entries.keyLE]

theorem jsonWithin_blocks (blocks : Entries String String) :
    ∃ j, Datum.jsonWithin [] (.ofFields (Entries.mapValues .str blocks)) = .ok j := by
  refine ⟨.obj (Json.sortFields (blocks.map fun p => (p.1, .str p.2))), ?_⟩
  show (Datum.fieldsOf (Datum.jsonEntries [] ((Entries.mapValues .str blocks).map
    fun p => (Datum.str p.1, p.2)))).map Json.obj = _
  have hfields := Datum.fieldsOf_ok (blocks.map fun p => (p.1, .str p.2))
  rw [Datum.jsonEntries_map]
  unfold Entries.mapValues
  rw [List.map_map] at hfields ⊢
  rw [List.map_map]
  exact congrArg (Except.map Json.obj) hfields

/-- A summary is written part by part; it can be written if its template can. -/
theorem canonical_eq {s : Summary} {blocks : Json}
    (hblocks : Datum.jsonWithin [] (.ofFields (Entries.mapValues .str s.blocks)) = .ok blocks) :
    s.canonical = (Datum.jsonWithin [] s.template.toDatum).map fun template =>
      Json.compact (.obj (("blocks", blocks) ::
        ([("dynamicStyles", (ofPlaces s.dynamicStyles).shown.sortKeys)] ++ ("styleCorrelations",
          (Datum.list none (s.styleCorrelations.map ofPlaces)).shown.sortKeys) ::
          [("stylesFound", (Datum.ofStrings s.stylesFound).shown.sortKeys),
            ("template", template)]))) := by
  have hdynamic := Datum.jsonWithin_eq (isPlain_ofPlaces s.dynamicStyles)
  have hcorrelations := Datum.jsonWithin_eq (isPlain_correlations s.styleCorrelations)
  have hstyles := Datum.jsonWithin_eq (isPlain_ofStrings s.stylesFound)
  unfold canonical Datum.canonical
  rw [sortedJson_toDatum]
  unfold parts
  simp only [List.mapM_cons, List.mapM_nil, hblocks, hdynamic, hcorrelations, hstyles]
  cases Datum.jsonWithin [] s.template.toDatum <;> rfl

/-- The order in which the blocks were bound does not show in the canonical text. -/
theorem canonical_eq_of_perm {s s' : Summary} (htemplate : s.template = s'.template)
    (hkeys : (Entries.keys s.blocks).Nodup) (hblocks : s.blocks.Perm s'.blocks)
    (hfound : s.stylesFound = s'.stylesFound) (hdynamic : s.dynamicStyles = s'.dynamicStyles)
    (hcorrelations : s.styleCorrelations = s'.styleCorrelations) : s.canonical = s'.canonical := by
  obtain ⟨blocks, hb⟩ := jsonWithin_blocks s.blocks
  have hb' : Datum.jsonWithin [] (.ofFields (Entries.mapValues .str s'.blocks)) = .ok blocks := by
    rw [← hb]
    refine (Datum.jsonWithin_ofFields_perm ?_ (hblocks.map _)).symm
    exact (Entries.keys_mapValues Datum.str s.blocks).symm ▸ hkeys
  rw [canonical_eq hb, canonical_eq hb', htemplate, hfound, hdynamic, hcorrelations]

theorem compactChars_correlations_iff {xs ys : List (List Nat)} :
    Json.compactChars (Datum.list none (xs.map ofPlaces)).shown.sortKeys =
      Json.compactChars (Datum.list none (ys.map ofPlaces)).shown.sortKeys ↔ xs = ys := by
  have hx := Datum.isPlain_shown (isPlain_correlations xs)
  have hy := Datum.isPlain_shown (isPlain_correlations ys)
  rw [← Datum.same_correlations_iff, ← Json.sortKeys_eq_iff hx hy]
  exact ⟨Json.compactChars_injective hx.sortKeys hy.sortKeys, congrArg Json.compactChars⟩

/-- Summaries that differ in their correlations alone have one canonical text exactly if the
correlations are the same in the same order. -/
theorem canonical_eq_iff_correlations {s s' : Summary} (htemplate : s.template = s'.template)
    (hblocks : s.blocks = s'.blocks) (hfound : s.stylesFound = s'.stylesFound)
    (hdynamic : s.dynamicStyles = s'.dynamicStyles) {text : String} (h : s.canonical = .ok text) :
    s.canonical = s'.canonical ↔ s.styleCorrelations = s'.styleCorrelations := by
  obtain ⟨blocks, hb⟩ := jsonWithin_blocks s.blocks
  rw [canonical_eq hb] at h ⊢
  rw [canonical_eq (hblocks ▸ hb), ← htemplate, ← hfound, ← hdynamic]
  cases ht : Datum.jsonWithin [] s.template.toDatum with
  | error e => rw [ht] at h; cases h
  | ok template =>
    show Except.ok _ = Except.ok _ ↔ _
    rw [Except.ok.injEq, Json.compact_obj_eq_iff, compactChars_correlations_iff]

end Summary

end StyleUsage
