import StyleUsage.Proofs.Json.Layout

/-!
# Equal values

Two JSON values are equal if they are up to the order in which fields are written. Plain values are
equal exactly if they are one value with sorted keys (`sortKeys_eq_iff`), and hence exactly if they
have one canonical text (`canonical_eq_iff`).
-/

namespace StyleUsage.Json

mutual

/-- Two values are equal: lists item by item, objects field by field whatever their order, and
anything else only to itself. -/
def Same : Json → Json → Prop
  | .arr xs, w =>
    match w with
    | .arr ys => SameList xs ys
    | _ => False
  | .obj fs, w =>
    match w with
    | .obj gs => fs.length = gs.length ∧ SameFields fs gs
    | _ => False
  | v, w => v = w
termination_by structural v => v

/-- Two lists are equal item by item. -/
def SameList : List Json → List Json → Prop
  | [], ys => ys = []
  | x :: xs, ys =>
    match ys with
    | [] => False
    | y :: ys => Same x y ∧ SameList xs ys
termination_by structural xs => xs

/-- Every field has an equal one under its key. -/
def SameFields : List (String × Json) → List (String × Json) → Prop
  | [], _ => True
  | (k, v) :: rest, gs => (∃ w, (k, w) ∈ gs ∧ Same v w) ∧ SameFields rest gs
termination_by structural fs => fs

end

/-! ## Sorted keys -/

theorem sortKeysFields_eq_map (fs : List (String × Json)) :
    sortKeysFields fs = fs.map fun p => (p.1, p.2.sortKeys) := by
  induction fs with
  | nil => rfl
  | cons f fs ih => exact congrArg ((f.1, f.2.sortKeys) :: ·) ih

theorem keys_sortKeysFields (fs : List (String × Json)) :
    Entries.keys (sortKeysFields fs) = Entries.keys fs := by
  rw [sortKeysFields_eq_map]
  unfold Entries.keys
  rw [List.map_map]
  rfl

theorem isPlainFields_iff {fs : List (String × Json)} :
    IsPlainFields fs ↔ ∀ p ∈ fs, p.2.IsPlain := by
  induction fs with
  | nil => simp [IsPlainFields]
  | cons f fs ih =>
    rw [List.forall_mem_cons, ← ih]
    rfl

theorem obj_sortKeys_eq_iff {fs gs : List (String × Json)} (h : (Entries.keys fs).Nodup) :
    (obj fs).sortKeys = (obj gs).sortKeys ↔
      fs.length = gs.length ∧ ∀ p ∈ sortKeysFields fs, p ∈ sortKeysFields gs := by
  have hkeys : (Entries.keys (sortKeysFields fs)).Nodup := by rwa [keys_sortKeysFields]
  have hlen : ∀ fs : List (String × Json), (sortKeysFields fs).length = fs.length := by
    intro fs
    rw [sortKeysFields_eq_map, List.length_map]
  rw [sortKeys, sortKeys, Json.obj.injEq]
  unfold sortFields
  rw [Entries.sorted_eq_iff_perm hkeys, Entries.perm_iff_subset hkeys, hlen, hlen]

mutual

/-- Plain values are equal exactly if they are one value with sorted keys. -/
theorem sortKeys_eq_iff : ∀ {v w : Json}, v.IsPlain → w.IsPlain →
    (v.sortKeys = w.sortKeys ↔ Same v w)
  | .null, w, _, _ => by cases w <;> simp [sortKeys, Same]
  | .bool b, w, _, _ => by cases w <;> simp [sortKeys, Same]
  | .int i, w, _, _ => by cases w <;> simp [sortKeys, Same]
  | .str s, w, _, _ => by cases w <;> simp [sortKeys, Same]
  | .arr xs, w, hv, hw => by
    cases w with
    | arr ys =>
      rw [sortKeys, sortKeys, Json.arr.injEq]
      exact sortKeysList_eq_iff hv hw
    | _ => simp [sortKeys, Same]
  | .obj fs, w, hv, hw => by
    cases w with
    | obj gs =>
      rw [obj_sortKeys_eq_iff hv.1]
      exact and_congr_right fun _ => mem_sortKeysFields_iff hv.2 hw.2
    | _ => simp [sortKeys, Same]

theorem sortKeysList_eq_iff : ∀ {xs ys : List Json}, IsPlainList xs → IsPlainList ys →
    (sortKeysList xs = sortKeysList ys ↔ SameList xs ys)
  | [], [], _, _ => by simp [sortKeysList, SameList]
  | [], y :: ys, _, _ => by simp [sortKeysList, SameList]
  | x :: xs, [], _, _ => by simp [sortKeysList, SameList]
  | x :: xs, y :: ys, ⟨hx, hxs⟩, ⟨hy, hys⟩ => by
    rw [sortKeysList, sortKeysList, List.cons.injEq]
    exact and_congr (sortKeys_eq_iff hx hy) (sortKeysList_eq_iff hxs hys)

theorem mem_sortKeysFields_iff : ∀ {fs gs : List (String × Json)}, IsPlainFields fs →
    IsPlainFields gs → ((∀ p ∈ sortKeysFields fs, p ∈ sortKeysFields gs) ↔ SameFields fs gs)
  | [], gs, _, _ => by simp [sortKeysFields, SameFields]
  | (k, v) :: fs, gs, ⟨hv, hfs⟩, hgs => by
    have hhead : (k, v.sortKeys) ∈ sortKeysFields gs ↔ ∃ w, (k, w) ∈ gs ∧ Same v w := by
      rw [sortKeysFields_eq_map, List.mem_map]
      constructor
      · rintro ⟨⟨k', w⟩, hmem, heq⟩
        obtain ⟨rfl, hw⟩ := Prod.mk.inj heq
        exact ⟨w, hmem, (sortKeys_eq_iff hv (isPlainFields_iff.1 hgs _ hmem)).1 hw.symm⟩
      · rintro ⟨w, hmem, hw⟩
        have hsorted := (sortKeys_eq_iff hv (isPlainFields_iff.1 hgs _ hmem)).2 hw
        exact ⟨(k, w), hmem, by rw [hsorted]⟩
    rw [sortKeysFields, List.forall_mem_cons, hhead, mem_sortKeysFields_iff hfs hgs]
    rfl

end

/-! ## Sorting twice -/

theorem sortFields_sortFields (fs : List (String × Json)) :
    sortFields (sortFields fs) = sortFields fs :=
  List.mergeSort_of_pairwise (Entries.pairwise_sorted fs)

theorem sortKeysFields_sortFields (fs : List (String × Json)) :
    sortKeysFields (sortFields fs) = sortFields (sortKeysFields fs) := by
  rw [sortKeysFields_eq_map, sortKeysFields_eq_map]
  exact (Entries.mergeSort_mapValues Json.sortKeys fs).symm

mutual

theorem sortKeys_sortKeys : ∀ v : Json, v.sortKeys.sortKeys = v.sortKeys
  | .null | .bool _ | .int _ | .float _ | .str _ => rfl
  | .arr xs => congrArg arr (sortKeysList_sortKeysList xs)
  | .obj fs => by
    rw [sortKeys, sortKeys, sortKeysFields_sortFields, sortKeysFields_sortKeysFields,
      sortFields_sortFields]

theorem sortKeysList_sortKeysList : ∀ xs, sortKeysList (sortKeysList xs) = sortKeysList xs
  | [] => rfl
  | x :: xs => by
    rw [sortKeysList, sortKeysList, sortKeys_sortKeys x, sortKeysList_sortKeysList xs]

theorem sortKeysFields_sortKeysFields : ∀ fs,
    sortKeysFields (sortKeysFields fs) = sortKeysFields fs
  | [] => rfl
  | (k, v) :: fs => by
    rw [sortKeysFields, sortKeysFields, sortKeys_sortKeys v, sortKeysFields_sortKeysFields fs]

end

/-! ## Canonical texts -/

mutual

theorem IsPlain.sortKeys : ∀ {v : Json}, v.IsPlain → v.sortKeys.IsPlain
  | .null, _ => trivial
  | .bool _, _ => trivial
  | .int _, _ => trivial
  | .str _, _ => trivial
  | .arr xs, h => IsPlainList.sortKeys h
  | .obj fs, ⟨hkeys, hfs⟩ => by
    have hperm : (sortKeysFields fs).Perm (sortFields (sortKeysFields fs)) :=
      (List.mergeSort_perm _ _).symm
    refine ⟨Entries.nodup_keys_of_perm (by rwa [keys_sortKeysFields]) hperm, ?_⟩
    exact isPlainFields_iff.2 fun p hp => isPlainFields_iff.1 hfs.sortKeys p (hperm.mem_iff.2 hp)

theorem IsPlainList.sortKeys : ∀ {vs : List Json}, IsPlainList vs → IsPlainList (sortKeysList vs)
  | [], _ => trivial
  | _ :: _, ⟨hv, hvs⟩ => ⟨hv.sortKeys, hvs.sortKeys⟩

theorem IsPlainFields.sortKeys : ∀ {fs : List (String × Json)}, IsPlainFields fs →
    IsPlainFields (sortKeysFields fs)
  | [], _ => trivial
  | _ :: _, ⟨hv, hfs⟩ => ⟨hv.sortKeys, hfs.sortKeys⟩

end

theorem same_sortKeys {v : Json} (hv : v.IsPlain) : Same v.sortKeys v :=
  (sortKeys_eq_iff hv.sortKeys hv).1 (sortKeys_sortKeys v)

/-- Plain values are equal exactly if they have one canonical text. -/
theorem canonical_eq_iff {v w : Json} (hv : v.IsPlain) (hw : w.IsPlain) :
    v.canonical = w.canonical ↔ Same v w := by
  rw [← sortKeys_eq_iff hv hw]
  constructor
  · intro h
    exact compactChars_injective hv.sortKeys hw.sortKeys (String.ofList_injective h)
  · exact congrArg compact

end StyleUsage.Json
