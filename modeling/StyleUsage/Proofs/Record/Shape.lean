import StyleUsage.Proofs.Datum.Rendered
import StyleUsage.Proofs.Record.Reload
import StyleUsage.Proofs.Walk.Reading

/-!
# What a summary is read from

Reading a record takes a summary from a value, part by part, and then rebuilds its template
(`read_eq_readSummary`). For each part there is a lemma that says from which values it is read:
the names (`readStyles_ok_iff`), the places (`readPlaces_ok_iff`), the correlations
(`readCorrelations_ok_iff`), the blocks (`readBlocks_ok_iff`) and the descriptor
(`readTemplate_ofJson_ok_iff`). A JSON value gives a summary exactly if the summary is written so
and is well formed (`readSummary_ofJson_ok_iff`).
-/

namespace StyleUsage

def Json.ofPlaces (places : List Nat) : Json := .arr (places.map fun i => .int (Int.ofNat i))

/-- The fields of an object are those of a descriptor, whatever else it has. -/
structure Descriptor.WrittenAs (d : Descriptor) (fields : List (String × Json)) : Prop where
  type : Entries.get? fields "type" = some (.str d.type)
  identifier :
    ∃ text, Entries.get? fields "identifier" = some (.str text) ∧ d.identifier = .str text
  data : (Entries.get? fields "data" = none ∧ d.data = none) ∨
    ∃ items, Entries.get? fields "data" = some (.arr items) ∧ d.data = some (Datum.ofJsonList items)

/-- The fields of a JSON value are those of a summary, whatever else it has. -/
structure Summary.WrittenAs (s : Summary) (j : Json) : Prop where
  template : ∃ fields, j.field? "template" = some (.obj fields) ∧ s.template.WrittenAs fields
  blocks : j.field? "blocks" = some (.obj (Entries.mapValues .str s.blocks))
  stylesFound : j.field? "stylesFound" = some (.ofStrings s.stylesFound)
  dynamicStyles : j.field? "dynamicStyles" = some (.ofPlaces s.dynamicStyles)
  styleCorrelations : j.field? "styleCorrelations" = some (.arr (s.styleCorrelations.map .ofPlaces))

namespace Datum

/-! ## JSON values -/

theorem ofJsonList_eq_map (js : List Json) : ofJsonList js = js.map ofJson := by
  induction js with
  | nil => rfl
  | cons j js ih => exact congrArg (ofJson j :: ·) ih

theorem ofJson_injective : Function.Injective ofJson :=
  Function.LeftInverse.injective shown_ofJson

theorem items?_ofJson_iff {v : Json} {items : List Datum} :
    (ofJson v).items? = some items ↔ ∃ js, v = .arr js ∧ items = ofJsonList js := by
  cases v <;> simp [ofJson, items?, opened, eq_comm]

theorem entries?_ofJson_iff {v : Json} {entries : List (Datum × Datum)} :
    (ofJson v).entries? = some entries ↔
      ∃ fields, v = .obj fields ∧ entries = ofJsonFields fields := by
  cases v <;> simp [ofJson, entries?, opened, eq_comm]

theorem lookup?_ofJsonFields_iff {fields : List (String × Json)} {key : String} {v : Json} :
    lookup? (ofJsonFields fields) key = some (ofJson v) ↔ Entries.get? fields key = some v := by
  rw [lookup?_ofJsonFields]
  exact (Option.map_injective ofJson_injective).eq_iff (b := some v)

/-- The items of a value are those of a list exactly if the value is the list. -/
theorem items?_ofJson_map_iff {α : Type} {f : α → Datum} {g : α → Json} {v : Json} {xs : List α}
    (hfg : ∀ x, f x = ofJson (g x)) :
    (ofJson v).items? = some (xs.map f) ↔ v = .arr (xs.map g) := by
  have hmap : xs.map f = ofJsonList (xs.map g) := by
    rw [ofJsonList_eq_map, List.map_map]
    exact List.map_congr_left fun x _ => hfg x
  rw [items?_ofJson_iff, hmap]
  constructor
  · rintro ⟨js, rfl, hjs⟩
    rw [ofJsonList_eq_map, ofJsonList_eq_map] at hjs
    rw [List.map_injective_iff.2 ofJson_injective hjs]
  · rintro rfl
    exact ⟨_, rfl, rfl⟩

theorem items?_ofJson_places_iff {v : Json} {places : List Nat} :
    (ofJson v).items? = some (places.map fun i => .int (Int.ofNat i)) ↔ v = .ofPlaces places :=
  items?_ofJson_map_iff (f := fun i : Nat => .int i) fun _ => rfl

theorem items?_ofJson_texts_iff {v : Json} {names : List String} :
    (ofJson v).items? = some (names.map .str) ↔ v = .ofStrings names :=
  items?_ofJson_map_iff fun _ => rfl

theorem entries?_ofJson_texts_iff {v : Json} {t : Entries String String} :
    (ofJson v).entries? = some (t.map fun p => (.str p.1, .str p.2)) ↔
      v = .obj (Entries.mapValues .str t) := by
  have htexts : (t.map fun p => (Datum.str p.1, Datum.str p.2)) =
      ofJsonFields (Entries.mapValues .str t) := by
    rw [ofJsonFields_eq_map]
    unfold Entries.mapValues
    rw [List.map_map]
    rfl
  rw [entries?_ofJson_iff, htexts]
  constructor
  · rintro ⟨fields, rfl, hfields⟩
    have hobj : ofJson (.obj (Entries.mapValues .str t)) = ofJson (.obj fields) :=
      congrArg (Datum.map none) hfields
    exact (ofJson_injective hobj).symm
  · rintro rfl
    exact ⟨_, rfl, rfl⟩

end Datum

namespace Record

open Datum

/-! ## Names and places -/

theorem isAscending_iff {α : Type} [Preorder α] [DecidableLE α] {xs : List α} :
    isAscending xs = true ↔ xs.Pairwise (· ≤ ·) := by
  refine ⟨fun h => ?_, isAscending_of_pairwise⟩
  rw [← List.isChain_iff_pairwise]
  induction xs with
  | nil => exact .nil
  | cons a xs ih =>
    cases xs with
    | nil => exact .singleton a
    | cons b rest =>
      unfold isAscending at h
      obtain ⟨hab, hrest⟩ := Bool.and_eq_true_iff.1 h
      exact .cons_cons (of_decide_eq_true hab) (ih hrest)

theorem readStyles_ok_iff {d : Datum} {names : List String} : readStyles d = .ok names ↔
    d.items? = some (names.map .str) ∧ names.Pairwise (· ≤ ·) := by
  unfold readStyles
  rw [← isAscending_iff]
  cases d.items? with
  | none => simp
  | some items =>
    rw [Option.bind_some, Option.some_inj, ← mapM_text?_eq_some_iff]
    cases items.mapM text? with
    | none => simp
    | some names' =>
      rw [Option.some_inj]
      dsimp only
      by_cases h : isAscending names' = true
      · rw [if_pos h, Except.ok.injEq]
        exact ⟨fun heq => ⟨heq, heq ▸ h⟩, And.left⟩
      · rw [if_neg h]
        simp only [reduceCtorEq, false_iff]
        rintro ⟨rfl, h'⟩
        exact h h'

theorem readPlace_ok_iff {size : Nat} {part : PlaceList} {d : Datum} {i : Nat} :
    readPlace size part d = .ok i ↔ d = .int (Int.ofNat i) ∧ i < size := by
  cases d with
  | int k =>
    simp only [readPlace, Datum.int.injEq]
    split <;> simp <;> omega
  | _ => simp [readPlace]

theorem mapM_readPlace_ok_iff {size : Nat} {part : PlaceList} {items : List Datum}
    {places : List Nat} : items.mapM (readPlace size part) = .ok places ↔
      items = places.map (fun i => .int (Int.ofNat i)) ∧ ∀ i ∈ places, i < size := by
  constructor
  · intro h
    have hall := mapM_eq_ok_iff.1 h
    clear h
    induction hall with
    | nil => exact ⟨rfl, by simp⟩
    | cons hd _ ih =>
      obtain ⟨rfl, hi⟩ := readPlace_ok_iff.1 hd
      obtain ⟨rfl, hlt⟩ := ih
      exact ⟨rfl, List.forall_mem_cons.2 ⟨hi, hlt⟩⟩
  · rintro ⟨rfl, hlt⟩
    exact mapM_map_eq_pure fun i hi => readPlace_ok_iff.2 ⟨rfl, hlt i hi⟩

theorem readPlaces_ok_iff {size : Nat} {part : PlaceList} {d : Datum} {places : List Nat} :
    readPlaces size part d = .ok places ↔
      d.items? = some (places.map fun i => .int (Int.ofNat i)) ∧
        places.Pairwise (· ≤ ·) ∧ ∀ i ∈ places, i < size := by
  unfold readPlaces
  cases d.items? with
  | none => simp
  | some items =>
    rw [Option.some_inj]
    dsimp only
    rw [bind_eq_ok_iff]
    simp only [mapM_readPlace_ok_iff]
    constructor
    · rintro ⟨places', ⟨rfl, hlt⟩, h⟩
      by_cases hsorted : isAscending places' = true
      · rw [if_pos hsorted] at h
        cases h
        exact ⟨rfl, isAscending_iff.1 hsorted, hlt⟩
      · rw [if_neg hsorted] at h
        cases h
    · rintro ⟨rfl, hsorted, hlt⟩
      exact ⟨places, ⟨rfl, hlt⟩, if_pos (isAscending_iff.2 hsorted)⟩

/-- What a correlation is read as: the places of two styles or more. -/
def CorrelationReadsAs (size : Nat) (d : Datum) (places : List Nat) : Prop :=
  d.items? = some (places.map fun i => .int (Int.ofNat i)) ∧ places.Pairwise (· ≤ ·) ∧
    (∀ i ∈ places, i < size) ∧ 2 ≤ places.length

/-- A correlation is read as the same whatever its number. -/
theorem readCorrelations_ok_iff {size n : Nat} {items : List Datum} {cs : List (List Nat)} :
    readCorrelations size n items = .ok cs ↔ List.Forall₂ (CorrelationReadsAs size) items cs := by
  induction items generalizing n cs with
  | nil => simp [readCorrelations, eq_comm]
  | cons d items ih =>
    rw [readCorrelations, bind_eq_ok_iff, List.forall₂_cons_left_iff]
    simp only [readPlaces_ok_iff]
    constructor
    · rintro ⟨places, ⟨hitems, hsorted, hlt⟩, h⟩
      by_cases hlen : places.length < 2
      · rw [if_pos hlen] at h
        cases h
      · rw [if_neg hlen] at h
        obtain ⟨others, hothers, h⟩ := bind_eq_ok_iff.1 h
        cases h
        exact ⟨places, others, ⟨hitems, hsorted, hlt, by omega⟩, ih.1 hothers, rfl⟩
    · rintro ⟨places, others, ⟨hitems, hsorted, hlt, hlen⟩, hothers, rfl⟩
      refine ⟨places, ⟨hitems, hsorted, hlt⟩, ?_⟩
      rw [if_neg (by omega), ih.2 hothers]
      rfl

/-! ## Blocks and descriptors -/

def source? : Datum × Datum → Option (String × String)
  | (.str name, .str source) => some (name, source)
  | _ => none

theorem readBlocks_eq (d : Datum) : readBlocks d =
    match d.entries?.bind fun entries => entries.mapM source? with
    | some sources => .ok sources
    | none => .error .malformedBlocks := rfl

theorem mapM_source?_eq_some_iff {entries : List (Datum × Datum)} {blocks : Entries String String} :
    entries.mapM source? = some blocks ↔ entries = blocks.map fun p => (.str p.1, .str p.2) := by
  refine mapM_eq_some_iff ?_
  rintro ⟨key, value⟩ ⟨name, source⟩
  cases key <;> cases value <;> simp [source?]

theorem readBlocks_ok_iff {d : Datum} {blocks : Entries String String} :
    readBlocks d = .ok blocks ↔ d.entries? = some (blocks.map fun p => (.str p.1, .str p.2)) := by
  rw [readBlocks_eq]
  cases d.entries? with
  | none => simp
  | some entries =>
    rw [Option.bind_some, Option.some_inj, ← mapM_source?_eq_some_iff]
    cases entries.mapM source? <;> simp

/-- A descriptor is read from an object with its fields, and from nothing else. -/
theorem readTemplate_ofJson_ok_iff {v : Json} {d : Descriptor} :
    readTemplate (.ofJson v) = .ok d ↔ ∃ fields, v = .obj fields ∧ d.WrittenAs fields := by
  cases v with
  | obj fields =>
    have hentries : (ofJson (.obj fields)).entries?.getD [] = ofJsonFields fields := rfl
    have hobj : (∃ fields', Json.obj fields = .obj fields' ∧ d.WrittenAs fields') ↔
        d.WrittenAs fields := by simp
    unfold readTemplate lookup
    rw [hentries, hobj]
    dsimp only
    constructor
    · intro h
      split at h
      · next type identifier htype hidentifier =>
        split at h
        · next hdata =>
          cases h
          rw [lookup?_ofJsonFields, Option.map_eq_none_iff] at hdata
          exact ⟨lookup?_ofJsonFields_iff.1 htype,
            ⟨identifier, lookup?_ofJsonFields_iff.1 hidentifier, rfl⟩, .inl ⟨hdata, rfl⟩⟩
        · next data items hdata hitems =>
          cases h
          rw [hdata] at hitems
          rw [lookup?_ofJsonFields] at hdata
          obtain ⟨w, hw, rfl⟩ := Option.map_eq_some_iff.1 hdata
          obtain ⟨js, rfl, rfl⟩ := items?_ofJson_iff.1 hitems
          exact ⟨lookup?_ofJsonFields_iff.1 htype,
            ⟨identifier, lookup?_ofJsonFields_iff.1 hidentifier, rfl⟩, .inr ⟨js, hw, rfl⟩⟩
        · cases h
      · cases h
    · rintro ⟨htype, ⟨text, hidentifier, htext⟩, hdata⟩
      obtain ⟨type, identifier, data⟩ := d
      cases htext
      simp only [lookup?_ofJsonFields, htype, hidentifier]
      rcases hdata with ⟨hdata, rfl⟩ | ⟨items, hdata, rfl⟩ <;> rw [hdata] <;> rfl
  | _ => simp [readTemplate, ofJson, entries?, opened, lookup?]

/-! ## Summaries -/

/-- The correlations that the field `styleCorrelations` holds. -/
def readAllCorrelations (size : Nat) (d : Datum) : Except RecordError (List (List Nat)) :=
  match d.items? with
  | some items => readCorrelations size 0 items
  | none => .error .malformedCorrelations

def readSummaryEntries (entries : List (Datum × Datum)) : Except RecordError Summary := do
  let template ← require entries "template"
  let blocks ← require entries "blocks"
  let styles ← require entries "stylesFound"
  let dynamic ← require entries "dynamicStyles"
  let correlations ← require entries "styleCorrelations"
  let template ← readTemplate template
  let blocks ← readBlocks blocks
  let stylesFound ← readStyles styles
  let dynamicStyles ← readPlaces stylesFound.length .dynamicStyles dynamic
  let styleCorrelations ← readAllCorrelations stylesFound.length correlations
  .ok { template, blocks, stylesFound, dynamicStyles, styleCorrelations }

/-- Read a summary; its template is not rebuilt. -/
def readSummary (data : Datum) : Except RecordError Summary :=
  match data.entries? with
  | some entries => readSummaryEntries entries
  | none => .error .notAnObject

/-- A record is a summary that was read, with its template rebuilt. -/
theorem read_eq_readSummary (registry : Registry) (data : Datum) : read registry data = (do
    let s ← readSummary data
    let template ← (registry.rebuild s.template).mapError .template
    .ok ⟨template, s.blocks, s.stylesFound, s.dynamicStyles, s.styleCorrelations⟩) := by
  unfold read readSummary
  cases data.entries? with
  | none => rfl
  | some entries =>
    dsimp only
    unfold readSummaryEntries
    simp only [bind_assoc]
    iterate 4 refine bind_congr fun _ => ?_
    refine bind_congr fun correlations => ?_
    iterate 4 refine bind_congr fun _ => ?_
    unfold readAllCorrelations
    cases correlations.items? <;> rfl

theorem require_ofJsonFields_ok_iff {fields : List (String × Json)} {key : String} {d : Datum} :
    require (ofJsonFields fields) key = .ok d ↔
      ∃ v, Entries.get? fields key = some v ∧ d = ofJson v := by
  unfold require
  rw [lookup?_ofJsonFields]
  cases Entries.get? fields key <;> simp [eq_comm]

theorem correlationReadsAs_ofJson_iff {size : Nat} {v : Json} {places : List Nat} :
    CorrelationReadsAs size (.ofJson v) places ↔ v = .ofPlaces places ∧ places.Pairwise (· ≤ ·) ∧
      (∀ i ∈ places, i < size) ∧ 2 ≤ places.length := by
  unfold CorrelationReadsAs
  rw [items?_ofJson_places_iff]

theorem readAllCorrelations_ofJson_ok_iff {size : Nat} {v : Json} {cs : List (List Nat)} :
    readAllCorrelations size (.ofJson v) = .ok cs ↔ v = .arr (cs.map .ofPlaces) ∧
      ∀ c ∈ cs, c.Pairwise (· ≤ ·) ∧ (∀ i ∈ c, i < size) ∧ 2 ≤ c.length := by
  cases v with
  | arr js =>
    show readCorrelations size 0 (ofJsonList js) = .ok cs ↔ _
    rw [readCorrelations_ok_iff, ofJsonList_eq_map, List.forall₂_map_left_iff, Json.arr.injEq]
    simp only [correlationReadsAs_ofJson_iff]
    constructor
    · intro h
      induction h with
      | nil => exact ⟨rfl, by simp⟩
      | cons hd _ ih =>
        obtain ⟨rfl, hrest⟩ := ih
        exact ⟨congrArg (· :: _) hd.1, List.forall_mem_cons.2 ⟨hd.2, hrest⟩⟩
    · rintro ⟨rfl, hall⟩
      rw [List.forall₂_map_left_iff, List.forall₂_same]
      exact fun c hc => ⟨rfl, hall c hc⟩
  | _ => simp [readAllCorrelations, ofJson, items?, opened]

/-- A JSON value is read as a summary exactly if the summary is written so and is well formed. -/
theorem readSummary_ofJson_ok_iff {j : Json} {s : Summary} :
    readSummary (.ofJson j) = .ok s ↔ s.WrittenAs j ∧ s.WellFormed := by
  cases j with
  | obj fields =>
    show readSummaryEntries (ofJsonFields fields) = .ok s ↔ _
    unfold readSummaryEntries
    simp only [bind_eq_ok_iff, require_ofJsonFields_ok_iff, Except.ok.injEq]
    constructor
    · rintro ⟨_, ⟨template, htemplate, rfl⟩, _, ⟨blocks, hblocks, rfl⟩, _, ⟨styles, hstyles, rfl⟩,
        _, ⟨dynamic, hdynamic, rfl⟩, _, ⟨correlations, hcorrelations, rfl⟩, d, hd, t, ht,
        names, hnames, places, hplaces, cs, hcs, rfl⟩
      obtain ⟨fields', rfl, hwritten⟩ := readTemplate_ofJson_ok_iff.1 hd
      rw [readBlocks_ok_iff, entries?_ofJson_texts_iff] at ht
      rw [readStyles_ok_iff, items?_ofJson_texts_iff] at hnames
      rw [readPlaces_ok_iff, items?_ofJson_places_iff] at hplaces
      rw [readAllCorrelations_ofJson_ok_iff] at hcs
      obtain ⟨rfl, hnames⟩ := hnames
      obtain ⟨rfl, hplaces, hlt⟩ := hplaces
      obtain ⟨rfl, hcs⟩ := hcs
      subst ht
      refine ⟨⟨⟨fields', htemplate, hwritten⟩, hblocks, hstyles, hdynamic, hcorrelations⟩, ?_⟩
      obtain ⟨text, -, htext⟩ := hwritten.identifier
      exact ⟨⟨text, htext⟩, hnames, hplaces, hlt, fun c hc => (hcs c hc).1,
        fun c hc => (hcs c hc).2.1, fun c hc => (hcs c hc).2.2⟩
    · rintro ⟨⟨⟨fields', htemplate, hwritten⟩, hblocks, hstyles, hdynamic, hcorrelations⟩, hwell⟩
      refine ⟨_, ⟨_, htemplate, rfl⟩, _, ⟨_, hblocks, rfl⟩, _, ⟨_, hstyles, rfl⟩,
        _, ⟨_, hdynamic, rfl⟩, _, ⟨_, hcorrelations, rfl⟩,
        _, readTemplate_ofJson_ok_iff.2 ⟨_, rfl, hwritten⟩,
        _, readBlocks_ok_iff.2 (entries?_ofJson_texts_iff.2 rfl),
        _, readStyles_ok_iff.2 ⟨items?_ofJson_texts_iff.2 rfl, hwell.names_sorted⟩,
        _, readPlaces_ok_iff.2 ⟨items?_ofJson_places_iff.2 rfl, hwell.dynamic_sorted,
          hwell.dynamic_lt⟩,
        _, readAllCorrelations_ofJson_ok_iff.2 ⟨rfl, fun c hc => ⟨hwell.correlation_sorted c hc,
          hwell.correlation_lt c hc, hwell.two_le_length c hc⟩⟩, rfl⟩
  | _ =>
    constructor
    · intro h
      cases h
    · rintro ⟨⟨-, h, -, -, -⟩, -⟩
      cases h

/-! ## What a summary shows -/

/-- The fields of a summary besides the template. -/
def plainFields : List String := ["blocks", "stylesFound", "dynamicStyles", "styleCorrelations"]

theorem shown_texts (t : Entries String String) :
    shown (.ofFields (Entries.mapValues .str t)) = .obj (Entries.mapValues .str t) := by
  rw [shown_ofFields]
  exact congrArg Json.obj (Entries.mapValues_mapValues shown Datum.str t)

theorem shown_ofStrings (names : List String) : shown (.ofStrings names) = .ofStrings names :=
  congrArg Json.arr (shownItems_map Datum.str names)

theorem shown_ofPlaces (places : List Nat) : shown (Summary.ofPlaces places) = .ofPlaces places :=
  congrArg Json.arr (shownItems_map (fun i : Nat => Datum.int i) places)

theorem shown_correlations (cs : List (List Nat)) :
    shown (.list none (cs.map Summary.ofPlaces)) = .arr (cs.map .ofPlaces) := by
  show Json.arr (shownItems (cs.map Summary.ofPlaces)) = _
  rw [shownItems_map]
  simp only [shown_ofPlaces]

/-- A summary shows the fields that it is written with, whatever its template. -/
theorem field?_shown_of_writtenAs {s : Summary} {j : Json} (h : s.WrittenAs j) (d : Descriptor) :
    ∀ key ∈ plainFields, ∃ v, j.field? key = some v ∧
      (shown { s with template := d }.toDatum).field? key = some v := by
  have hshown : shown { s with template := d }.toDatum = .obj [
      ("template", shown d.toDatum),
      ("blocks", .obj (Entries.mapValues .str s.blocks)),
      ("stylesFound", .ofStrings s.stylesFound),
      ("dynamicStyles", .ofPlaces s.dynamicStyles),
      ("styleCorrelations", .arr (s.styleCorrelations.map .ofPlaces))] := by
    unfold Summary.toDatum
    rw [shown_ofFields]
    simp only [List.map_cons, List.map_nil, shown_texts, shown_ofStrings, shown_ofPlaces,
      shown_correlations]
  rw [hshown]
  intro key hkey
  simp only [plainFields, List.mem_cons, List.not_mem_nil, or_false] at hkey
  rcases hkey with rfl | rfl | rfl | rfl
  · exact ⟨_, h.blocks, rfl⟩
  · exact ⟨_, h.stylesFound, rfl⟩
  · exact ⟨_, h.dynamicStyles, rfl⟩
  · exact ⟨_, h.styleCorrelations, rfl⟩

/-! ## Faults of the shape -/

/-- The computation does not fail for a template that cannot be rebuilt. -/
def ChecksShape {α : Type} (x : Except RecordError α) : Prop :=
  ∀ cause, x ≠ .error (.template cause)

namespace ChecksShape

variable {α γ : Type} {x : Except RecordError α}

theorem ok (a : α) : ChecksShape (.ok a) := by
  intro cause h
  cases h

theorem bind {k : α → Except RecordError γ} (hx : ChecksShape x) (hk : ∀ a, ChecksShape (k a)) :
    ChecksShape (x >>= k) := by
  cases x with
  | error e => exact fun cause h => hx cause (congrArg Except.error (Except.error.inj h))
  | ok a => exact hk a

theorem mapM {f : γ → Except RecordError α} (hf : ∀ c, ChecksShape (f c)) (cs : List γ) :
    ChecksShape (cs.mapM f) := by
  induction cs with
  | nil => exact ok []
  | cons c cs ih =>
    rw [List.mapM_cons]
    exact (hf c).bind fun a => ih.bind fun others => ok (a :: others)

theorem require (entries : List (Datum × Datum)) (key : String) :
    ChecksShape (require entries key) := by
  unfold Record.require
  split <;> simp [ChecksShape]

theorem readTemplate (d : Datum) : ChecksShape (readTemplate d) := by
  unfold Record.readTemplate
  dsimp only
  split
  · split <;> simp [ChecksShape]
  · simp [ChecksShape]

theorem readBlocks (d : Datum) : ChecksShape (readBlocks d) := by
  rw [readBlocks_eq]
  split <;> simp [ChecksShape]

theorem readStyles (d : Datum) : ChecksShape (readStyles d) := by
  unfold Record.readStyles
  split
  · split <;> simp [ChecksShape]
  · simp [ChecksShape]

theorem readPlaces (size : Nat) (part : PlaceList) (d : Datum) :
    ChecksShape (readPlaces size part d) := by
  unfold Record.readPlaces
  split
  · refine (mapM (fun item => ?_) _).bind fun places => ?_
    · unfold readPlace
      split
      · split <;> simp [ChecksShape]
      · simp [ChecksShape]
    · split <;> simp [ChecksShape]
  · simp [ChecksShape]

theorem readCorrelations (size n : Nat) (items : List Datum) :
    ChecksShape (readCorrelations size n items) := by
  induction items generalizing n with
  | nil => exact ok []
  | cons d items ih =>
    unfold Record.readCorrelations
    refine (readPlaces size (.correlation n) d).bind fun places => ?_
    split
    · simp [ChecksShape]
    · exact (ih (n + 1)).bind fun others => ok (places :: others)

theorem readSummary (data : Datum) : ChecksShape (readSummary data) := by
  unfold Record.readSummary
  split
  · unfold readSummaryEntries
    iterate 5 refine (require _ _).bind fun _ => ?_
    refine (readTemplate _).bind fun _ => (readBlocks _).bind fun _ => (readStyles _).bind fun _ =>
      (readPlaces _ _ _).bind fun _ => ?_
    refine ChecksShape.bind ?_ fun _ => ok _
    unfold readAllCorrelations
    split
    · exact readCorrelations _ _ _
    · simp [ChecksShape]
  · simp [ChecksShape]

end ChecksShape

end Record

end StyleUsage
