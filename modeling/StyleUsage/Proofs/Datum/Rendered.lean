import StyleUsage.Analysis.Rendering
import StyleUsage.Proofs.Datum.Canonical
import StyleUsage.Proofs.Json.LineEnds

/-!
# Reading rendered values back

A plain value is rendered with sorted keys, whatever the indentation, and its text reads back as
what it shows with sorted keys, also as the text of a file (`render_json_eq`, `read_rendered`,
`ofFile_rendered`). As a value of a document that is `Datum.sortKeys`, which is equal to the value
(`sortKeys_same`) and has the same values under the same keys (`exists_entries_sortKeys`). The
canonical text is such a text too, and it is a canonical form: JSON values have one canonical text
exactly if they are equal (`canonical_ofJson_eq_iff`).
-/

namespace StyleUsage

namespace Json

/-! ## Blanks for an indentation -/

/-- The blanks that rendering puts between the parts of a text. -/
def Spacing.ofIndent (indent : Int) : Spacing :=
  if indent ≤ 0 then .compact else .indented indent.toNat

def rendered (indent : Int) (j : Json) : String :=
  String.ofList (spacedChars (.ofIndent indent) 0 j ++ ['\n'])

theorem rendered_eq (indent : Int) (j : Json) : rendered indent j =
    (if indent ≤ 0 then j.compact else j.indented indent.toNat) ++ "\n" := by
  unfold rendered Spacing.ofIndent
  by_cases h : indent ≤ 0
  · rw [if_pos h, if_pos h, spacedChars_compact, String.ofList_append]
    rfl
  · rw [if_neg h, if_neg h, spacedChars_indented, String.ofList_append]
    rfl

theorem read_rendered {j : Json} (h : j.IsPlain) (indent : Int) :
    read (rendered indent j) = .ok j := by
  unfold read rendered
  rw [String.toList_ofList, readChars_spaced _ h (by simp [isGap])]
  rfl

theorem read_compact {j : Json} (h : j.IsPlain) : read j.compact = .ok j := by
  unfold read compact
  rw [String.toList_ofList, readChars_compact h]
  rfl

theorem ofFile_rendered {j : Json} (h : j.IsPlain) (indent : Int) :
    Text.ofFile (rendered indent j) = rendered indent j := by
  have hsp : (Spacing.ofIndent indent).NoReturn := by
    unfold Spacing.ofIndent
    split
    · exact Spacing.noReturn_compact
    · exact Spacing.noReturn_indented _
  apply Text.ofFile_of_not_mem
  unfold rendered
  rw [String.toList_ofList]
  simp [return_not_mem_spacedChars hsp 0 h]

/-! ## Looking up sorted fields -/

theorem get?_sortFields {fs : List (String × Json)} (h : (Entries.keys fs).Nodup) (key : String) :
    Entries.get? (sortFields fs) key = Entries.get? fs key := by
  have hperm : fs.Perm (sortFields fs) := (List.mergeSort_perm fs _).symm
  exact ((Entries.perm_iff_get? h (Entries.nodup_keys_of_perm h hperm)).1 hperm key).symm

theorem get?_sortKeysFields (fs : List (String × Json)) (key : String) :
    Entries.get? (sortKeysFields fs) key = (Entries.get? fs key).map sortKeys := by
  rw [sortKeysFields_eq_map]
  exact Entries.get?_mapValues sortKeys fs key

end Json

namespace Datum

theorem render_json_eq {d : Datum} (h : d.IsPlain [])
    (writeYaml : Datum → Except WritingError String) (indent : Int) :
    render writeYaml .json indent d = .ok (Json.rendered indent (shown d).sortKeys) := by
  show d.sortedJson.map _ = _
  unfold sortedJson
  rw [jsonWithin_eq h, Json.rendered_eq]
  rfl

/-! ## JSON values in a document -/

mutual

theorem shown_ofJson : ∀ j, shown (ofJson j) = j
  | .null | .bool _ | .int _ | .float _ | .str _ => rfl
  | .arr items => congrArg Json.arr (shownItems_ofJsonList items)
  | .obj fields => congrArg Json.obj (shownFields_ofJsonFields fields)

theorem shownItems_ofJsonList : ∀ js, shownItems (ofJsonList js) = js
  | [] => rfl
  | j :: rest => by rw [ofJsonList, shownItems, shown_ofJson j, shownItems_ofJsonList rest]

theorem shownFields_ofJsonFields : ∀ fs, shownFields (ofJsonFields fs) = fs
  | [] => rfl
  | (k, v) :: rest => by
    rw [ofJsonFields, shownFields, shown_ofJson v, shownFields_ofJsonFields rest]
    rfl

end

theorem ofJsonFields_eq_map (fs : List (String × Json)) :
    ofJsonFields fs = fs.map fun p => (.str p.1, ofJson p.2) := by
  induction fs with
  | nil => rfl
  | cons f fs ih => exact congrArg ((Datum.str f.1, ofJson f.2) :: ·) ih

theorem lookup?_ofJsonFields (fs : List (String × Json)) (key : String) :
    lookup? (ofJsonFields fs) key = (Entries.get? fs key).map ofJson := by
  induction fs with
  | nil => rfl
  | cons f fs ih =>
    obtain ⟨k, v⟩ := f
    rw [ofJsonFields, lookup?, Entries.get?, ih]
    by_cases hk : k = key
    · rw [if_pos hk, if_pos hk]
      rfl
    · rw [if_neg hk, if_neg hk]

mutual

theorem isPlain_ofJson : ∀ {j : Json}, j.IsPlain → IsPlain [] (ofJson j)
  | .null, _ | .bool _, _ | .int _, _ | .str _, _ => trivial
  | .arr _, h => ⟨rfl, isPlainItems_ofJsonList h⟩
  | .obj fields, ⟨hkeys, hfields⟩ => by
    have hnodup := hkeys.map (f := Datum.str) fun _ _ => Datum.str.inj
    refine ⟨rfl, ?_, isPlainEntries_ofJsonFields hfields⟩
    unfold Entries.keys at hnodup
    rw [List.map_map] at hnodup
    rwa [ofJsonFields_eq_map, List.map_map]

theorem isPlainItems_ofJsonList : ∀ {js : List Json}, Json.IsPlainList js →
    IsPlainItems [] (ofJsonList js)
  | [], _ => trivial
  | _ :: _, ⟨hj, hrest⟩ => ⟨isPlain_ofJson hj, isPlainItems_ofJsonList hrest⟩

theorem isPlainEntries_ofJsonFields : ∀ {fs : List (String × Json)}, Json.IsPlainFields fs →
    IsPlainEntries [] (ofJsonFields fs)
  | [], _ => trivial
  | (k, _) :: _, ⟨hv, hrest⟩ => ⟨⟨k, rfl⟩, isPlain_ofJson hv, isPlainEntries_ofJsonFields hrest⟩

end

/-! ## Values with sorted keys -/

/-- What a value comes back as when it is written as JSON and read. -/
def sortKeys (d : Datum) : Datum := ofJson (shown d).sortKeys

/-- Two values are JSON, and as JSON they are equal. -/
def Same (d e : Datum) : Prop := d.IsPlain [] ∧ e.IsPlain [] ∧ Json.Same (shown d) (shown e)

theorem sortKeys_same {d : Datum} (h : d.IsPlain []) : Same d.sortKeys d := by
  have hshown : (shown d).IsPlain := isPlain_shown h
  refine ⟨isPlain_ofJson hshown.sortKeys, h, ?_⟩
  unfold sortKeys
  rw [shown_ofJson]
  exact Json.same_sortKeys hshown

theorem exists_entries_sortKeys (fields : List (String × Datum)) (h : (Entries.keys fields).Nodup) :
    ∃ entries, (sortKeys (.ofFields fields)).entries? = some entries ∧
      ∀ key, lookup? entries key = (Entries.get? fields key).map sortKeys := by
  have hkeys : (Entries.keys (Json.sortKeysFields (Entries.mapValues shown fields))).Nodup := by
    rwa [Json.keys_sortKeysFields, Entries.keys_mapValues]
  refine ⟨ofJsonFields (Json.sortFields (Json.sortKeysFields (Entries.mapValues shown fields))),
    ?_, fun key => ?_⟩
  · unfold sortKeys
    rw [shown_ofFields]
    rfl
  · rw [lookup?_ofJsonFields, Json.get?_sortFields hkeys, Json.get?_sortKeysFields,
      Entries.get?_mapValues, Option.map_map, Option.map_map]
    rfl

/-- Texts under names come back in the order of the names. -/
theorem sortKeys_texts (t : Entries String String) :
    sortKeys (.ofFields (Entries.mapValues .str t)) =
      .ofFields (Entries.mapValues .str (t.mergeSort Entries.keyLE)) := by
  have hshown : shown (.ofFields (Entries.mapValues .str t)) =
      .obj (Entries.mapValues Json.str t) := by
    rw [shown_ofFields]
    exact congrArg Json.obj (Entries.mapValues_mapValues shown Datum.str t)
  have hfields : Json.sortKeysFields (Entries.mapValues Json.str t) =
      Entries.mapValues Json.str t := by
    rw [Json.sortKeysFields_eq_map]
    exact Entries.mapValues_mapValues Json.sortKeys Json.str t
  have hsorted : Json.sortFields (Entries.mapValues Json.str t) =
      Entries.mapValues Json.str (t.mergeSort Entries.keyLE) := Entries.mergeSort_mapValues _ t
  unfold sortKeys
  rw [hshown, Json.sortKeys, hfields, hsorted]
  show Datum.map none (ofJsonFields _) = Datum.map none _
  rw [ofJsonFields_eq_map]
  unfold Entries.mapValues
  rw [List.map_map, List.map_map]
  rfl

theorem sortKeys_list_map {α : Type} {f : α → Datum} (hf : ∀ x, sortKeys (f x) = f x)
    (xs : List α) : sortKeys (.list none (xs.map f)) = .list none (xs.map f) := by
  show Datum.list none (ofJsonList (Json.sortKeysList (shownItems (xs.map f)))) = _
  congr 1
  induction xs with
  | nil => rfl
  | cons x xs ih =>
    show sortKeys (f x) :: _ = _
    rw [hf x, ih]
    rfl

/-! ## Canonical forms -/

/-- A JSON value has a canonical text, that of the value with sorted keys. -/
theorem canonical_ofJson {j : Json} (h : j.IsPlain) : (ofJson j).canonical = .ok j.canonical := by
  rw [canonical_eq_ok (isPlain_ofJson h), shown_ofJson]

/-- **Canonical JSON is a canonical form.** Plain values have canonical texts, which are one text
exactly if the values are equal, whatever the order of fields in them. The text is that of the value
with sorted keys, without blanks; a value that equals it is read from it, and has the same text. -/
theorem canonical_ofJson_eq_iff {v w : Json} (hv : v.IsPlain) (hw : w.IsPlain) :
    ∃ text text', (ofJson v).canonical = .ok text ∧ (ofJson w).canonical = .ok text' ∧
      (text = text' ↔ Json.Same v w) ∧ text = v.sortKeys.compact ∧
      ∃ u, Json.read text = .ok u ∧ Json.Same u v ∧ (ofJson u).canonical = .ok text := by
  refine ⟨v.canonical, w.canonical, canonical_ofJson hv, canonical_ofJson hw,
    Json.canonical_eq_iff hv hw, rfl, v.sortKeys, Json.read_compact hv.sortKeys,
    Json.same_sortKeys hv, ?_⟩
  rw [canonical_ofJson hv.sortKeys]
  unfold Json.canonical
  rw [Json.sortKeys_sortKeys]

/-- Fields in another order at two depths make no difference; truth values, numbers, null and texts
do, and so does the order of items. -/
theorem canonical_ofJson_eq_iff_nested :
    let inner : List (String × Json) := [("y", .null), ("x", .str "1\"\n")]
    let v : Json := .obj [("b", .arr [.int 1, .obj inner]), ("a", .bool true)]
    let w : Json := .obj [("a", .bool true), ("b", .arr [.int 1, .obj inner.reverse])]
    let u : Json := .obj [("a", .int 1), ("b", .arr [.obj inner, .int 1])]
    (v.IsPlain ∧ w.IsPlain ∧ u.IsPlain) ∧
      (ofJson v).canonical = (ofJson w).canonical ∧
      (ofJson v).canonical ≠ (ofJson u).canonical := by
  intro inner v w u
  have hv : v.IsPlain := by
    simp [v, inner, Json.IsPlain, Json.IsPlainFields, Json.IsPlainList, Entries.keys]
  have hw : w.IsPlain := by
    simp [w, inner, Json.IsPlain, Json.IsPlainFields, Json.IsPlainList, Entries.keys]
  have hu : u.IsPlain := by
    simp [u, inner, Json.IsPlain, Json.IsPlainFields, Json.IsPlainList, Entries.keys]
  obtain ⟨text, text', hvtext, hwtext, hsame, -⟩ := canonical_ofJson_eq_iff hv hw
  obtain ⟨_, text'', hvtext', hutext, hsame', -⟩ := canonical_ofJson_eq_iff hv hu
  refine ⟨⟨hv, hw, hu⟩, ?_, ?_⟩
  · rw [hvtext, hwtext, hsame.2]
    simp [v, w, inner, Json.Same, Json.SameFields, Json.SameList]
  · rw [hvtext', hutext]
    intro heq
    have h := hsame'.1 (Except.ok.inj heq)
    simp [v, u, inner, Json.Same, Json.SameFields, Json.SameList] at h

end Datum

end StyleUsage
