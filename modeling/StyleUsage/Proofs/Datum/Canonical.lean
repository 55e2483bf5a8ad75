import StyleUsage.Datum.Writing
import StyleUsage.Proofs.Collection.Traversal
import StyleUsage.Proofs.Json.Same

/-!
# Canonical texts of values

A value is plain if JSON has it: it is made of null, truth values, whole numbers, texts, lists, and
mappings whose keys are different texts, and no collection stands inside itself. A plain value can
be written, and what is written is the JSON value that it shows with sorted keys (`jsonWithin_eq`).
So plain values have one canonical text exactly if they show equal JSON values (`canonical_eq_iff`).
-/

namespace StyleUsage.Datum

mutual

/-- JSON has the value; `around` are the labels of the collections around it. -/
def IsPlain (around : List Nat) : Datum → Prop
  | .list label items => isOneOf label around = false ∧ IsPlainItems (label.toList ++ around) items
  | .map label entries =>
    isOneOf label around = false ∧ (entries.map Prod.fst).Nodup ∧
      IsPlainEntries (label.toList ++ around) entries
  | .null => True
  | .bool _ => True
  | .int _ => True
  | .str _ => True
  | _ => False
termination_by structural d => d

/-- JSON has every item. -/
def IsPlainItems (around : List Nat) : List Datum → Prop
  | [] => True
  | d :: rest => IsPlain around d ∧ IsPlainItems around rest
termination_by structural ds => ds

/-- Every key is a text, and JSON has every value. -/
def IsPlainEntries (around : List Nat) : List (Datum × Datum) → Prop
  | [] => True
  | (k, v) :: rest => (∃ name, k = .str name) ∧ IsPlain around v ∧ IsPlainEntries around rest
termination_by structural es => es

end

/-! ## Writing -/

theorem fieldsOf_text (fields : List (String × Except WritingError Json)) :
    fieldsOf (fields.map fun p => (.str p.1, p.2)) =
      (fields.mergeSort Entries.keyLE).mapM fun p => p.2.map fun j => (p.1, j) := by
  unfold fieldsOf sortEntries
  rw [mapM_map_eq_pure ?_]
  · show ((fields.mergeSort Entries.keyLE).map fun p => (Datum.str p.1, p.2)).mapM _ = _
    rw [List.mapM_map]
    rfl
  · exact fun p _ => rfl

theorem fieldsOf_ok (fields : List (String × Json)) :
    fieldsOf (fields.map fun p => (.str p.1, .ok p.2)) = .ok (Json.sortFields fields) := by
  have hsorted : (fields.map fun p => (p.1, (Except.ok p.2 : Except WritingError Json))).mergeSort
      Entries.keyLE = (Json.sortFields fields).map fun p => (p.1, .ok p.2) :=
    Entries.mergeSort_mapValues Except.ok fields
  have htext := fieldsOf_text (fields.map fun p => (p.1, .ok p.2))
  rw [List.map_map, hsorted] at htext
  exact htext.trans (mapM_map_eq_pure fun p _ => rfl)

mutual

/-- A plain value is written as the JSON value that it shows, with sorted keys. -/
theorem jsonWithin_eq : ∀ {d : Datum} {around : List Nat}, IsPlain around d →
    jsonWithin around d = .ok (shown d).sortKeys
  | .null, _, _ => rfl
  | .bool _, _, _ => rfl
  | .int _, _, _ => rfl
  | .str _, _, _ => rfl
  | .list label items, around, ⟨hlabel, hitems⟩ => by
    rw [jsonWithin, hlabel, jsonItems_eq hitems]
    rfl
  | .map label entries, around, ⟨hlabel, _, hentries⟩ => by
    rw [jsonWithin, hlabel, jsonEntries_eq hentries, fieldsOf_ok]
    rfl

theorem jsonItems_eq : ∀ {ds : List Datum} {around : List Nat}, IsPlainItems around ds →
    jsonItems around ds = .ok (Json.sortKeysList (shownItems ds))
  | [], _, _ => rfl
  | d :: rest, around, ⟨hd, hrest⟩ => by
    rw [jsonItems, jsonWithin_eq hd, jsonItems_eq hrest]
    rfl

theorem jsonEntries_eq : ∀ {es : List (Datum × Datum)} {around : List Nat},
    IsPlainEntries around es → jsonEntries around es =
      (Json.sortKeysFields (shownFields es)).map fun p => (.str p.1, .ok p.2)
  | [], _, _ => rfl
  | (.str name, v) :: rest, around, ⟨_, hv, hrest⟩ => by
    rw [jsonEntries, jsonWithin_eq hv, jsonEntries_eq hrest]
    rfl

end

/-! ## What a value shows -/

theorem shownItems_map {α : Type} (f : α → Datum) (xs : List α) :
    shownItems (xs.map f) = xs.map fun x => shown (f x) := by
  induction xs with
  | nil => rfl
  | cons x xs ih => exact congrArg (shown (f x) :: ·) ih

theorem shown_ofFields (fields : List (String × Datum)) :
    shown (.ofFields fields) = .obj (fields.map fun p => (p.1, shown p.2)) := by
  show Json.obj (shownFields (fields.map fun p => (Datum.str p.1, p.2))) = _
  congr 1
  induction fields with
  | nil => rfl
  | cons f fields ih => exact congrArg ((f.1, shown f.2) :: ·) ih

theorem map_str_keys_shownFields : ∀ {es : List (Datum × Datum)} {around : List Nat},
    IsPlainEntries around es →
    (Entries.keys (shownFields es)).map Datum.str = es.map Prod.fst
  | [], _, _ => rfl
  | (.str name, _) :: _, _, ⟨_, _, hrest⟩ =>
    congrArg (Datum.str name :: ·) (map_str_keys_shownFields hrest)

mutual

/-- A plain value shows a plain JSON value. -/
theorem isPlain_shown : ∀ {d : Datum} {around : List Nat}, IsPlain around d → (shown d).IsPlain
  | .null, _, _ => trivial
  | .bool _, _, _ => trivial
  | .int _, _, _ => trivial
  | .str _, _, _ => trivial
  | .list _ _, _, ⟨_, hitems⟩ => isPlainList_shownItems hitems
  | .map _ entries, around, ⟨_, hkeys, hentries⟩ => by
    rw [← map_str_keys_shownFields hentries] at hkeys
    exact ⟨hkeys.of_map Datum.str, isPlainFields_shownFields hentries⟩

theorem isPlainList_shownItems : ∀ {ds : List Datum} {around : List Nat},
    IsPlainItems around ds → Json.IsPlainList (shownItems ds)
  | [], _, _ => trivial
  | _ :: _, _, ⟨hd, hrest⟩ => ⟨isPlain_shown hd, isPlainList_shownItems hrest⟩

theorem isPlainFields_shownFields : ∀ {es : List (Datum × Datum)} {around : List Nat},
    IsPlainEntries around es → Json.IsPlainFields (shownFields es)
  | [], _, _ => trivial
  | (_, _) :: _, _, ⟨_, hv, hrest⟩ => ⟨isPlain_shown hv, isPlainFields_shownFields hrest⟩

end

/-! ## Canonical texts -/

/-- A plain value has a canonical text, that of the JSON value that it shows. -/
theorem canonical_eq_ok {d : Datum} (h : d.IsPlain []) : d.canonical = .ok (shown d).canonical := by
  unfold canonical sortedJson
  rw [jsonWithin_eq h]
  rfl

/-- Plain values have one canonical text exactly if they show equal JSON values. -/
theorem canonical_eq_iff {d e : Datum} (hd : d.IsPlain []) (he : e.IsPlain []) :
    d.canonical = e.canonical ↔ Json.Same (shown d) (shown e) := by
  rw [canonical_eq_ok hd, canonical_eq_ok he, Except.ok.injEq]
  exact Json.canonical_eq_iff (isPlain_shown hd) (isPlain_shown he)

end StyleUsage.Datum
