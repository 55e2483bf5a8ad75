import StyleUsage.Proofs.Analysis.Lookup
import StyleUsage.Proofs.Datum.Canonical

/-!
# What a canonical text tells

The canonical text of a summary tells each of its parts (`same_toDatum_iff`). For the analyses of
two walks over whatever blocks and styles this means that their texts are one text exactly if they
agree in the template, in the sources under the local names, and up to order in the names of the
found styles, of the dynamic styles and of each correlation of two styles or more
(`canonical_eq_iff_same_content`).
-/

namespace StyleUsage

/-! ## Values that summaries are made of -/

namespace Json

theorem sameList_map_iff {α : Type} {f : α → Json} (hf : ∀ x y, Same (f x) (f y) ↔ x = y) :
    ∀ {xs ys : List α}, SameList (xs.map f) (ys.map f) ↔ xs = ys
  | [], [] => by simp [SameList]
  | [], _ :: _ => by simp [SameList]
  | _ :: _, [] => by simp [SameList]
  | x :: xs, y :: ys => by
    rw [List.cons.injEq, ← hf x y, ← sameList_map_iff hf]
    rfl

theorem sameFields_iff {fs gs : List (String × Json)} :
    SameFields fs gs ↔ ∀ p ∈ fs, ∃ w, (p.1, w) ∈ gs ∧ Same p.2 w := by
  induction fs with
  | nil => simp [SameFields]
  | cons f fs ih =>
    rw [List.forall_mem_cons, ← ih]
    rfl

end Json

namespace Datum

/-- Texts under names are equal exactly if the tables say the same. -/
theorem same_texts_iff {t t' : Entries String String} (h : (Entries.keys t).Nodup)
    (h' : (Entries.keys t').Nodup) :
    Json.Same (shown (.ofFields (Entries.mapValues .str t)))
      (shown (.ofFields (Entries.mapValues .str t'))) ↔
      ∀ name, Entries.get? t name = Entries.get? t' name := by
  have hfield : ∀ p : String × String, (∃ w, (p.1, w) ∈ (t'.map fun q => (q.1, shown (.str q.2))) ∧
      Json.Same (shown (.str p.2)) w) ↔ p ∈ t' := by
    intro p
    constructor
    · rintro ⟨w, hmem, hw⟩
      obtain ⟨q, hq, heq⟩ := List.mem_map.1 hmem
      obtain ⟨hname, rfl⟩ := Prod.mk.inj heq
      have hsource : p.2 = q.2 := Json.str.inj hw
      rwa [Prod.ext hname.symm hsource]
    · intro hp
      exact ⟨_, List.mem_map_of_mem hp, rfl⟩
  rw [← Entries.perm_iff_get? h h', Entries.perm_iff_subset h, shown_ofFields, shown_ofFields]
  unfold Entries.mapValues
  rw [List.map_map, List.map_map]
  show _ ∧ Json.SameFields _ _ ↔ _
  rw [List.length_map, List.length_map, Json.sameFields_iff, List.forall_mem_map]
  exact and_congr_right fun _ => forall₂_congr fun p _ => hfield p

theorem same_ofStrings_iff {xs ys : List String} :
    Json.Same (shown (.ofStrings xs)) (shown (.ofStrings ys)) ↔ xs = ys := by
  show Json.SameList (shownItems (xs.map Datum.str)) (shownItems (ys.map Datum.str)) ↔ _
  rw [shownItems_map, shownItems_map]
  exact Json.sameList_map_iff fun x y => Json.str.injEq x y ▸ Iff.rfl

theorem same_ofPlaces_iff {xs ys : List Nat} :
    Json.Same (shown (Summary.ofPlaces xs)) (shown (Summary.ofPlaces ys)) ↔ xs = ys := by
  show Json.SameList (shownItems (xs.map _)) (shownItems (ys.map _)) ↔ _
  rw [shownItems_map, shownItems_map]
  apply Json.sameList_map_iff
  intro x y
  show Json.int x = Json.int y ↔ _
  rw [Json.int.injEq]
  exact Int.ofNat_inj

@[simp] theorem isPlain_str (around : List Nat) (s : String) : IsPlain around (.str s) := trivial

@[simp] theorem isPlain_int (around : List Nat) (i : Int) : IsPlain around (.int i) := trivial

theorem isPlainItems_map {α : Type} {f : α → Datum} {around : List Nat}
    (hf : ∀ x, IsPlain around (f x)) : ∀ xs : List α, IsPlainItems around (xs.map f)
  | [] => trivial
  | x :: xs => ⟨hf x, isPlainItems_map hf xs⟩

theorem isPlain_ofFields {fields : List (String × Datum)} (hkeys : (fields.map Prod.fst).Nodup)
    (hvalues : ∀ p ∈ fields, IsPlain [] p.2) : IsPlain [] (.ofFields fields) := by
  refine ⟨rfl, ?_, ?_⟩
  · have hnodup := hkeys.map (f := Datum.str) fun _ _ => Datum.str.inj
    rw [List.map_map] at hnodup ⊢
    exact hnodup
  · clear hkeys
    induction fields with
    | nil => trivial
    | cons p fields ih =>
      exact ⟨⟨p.1, rfl⟩, hvalues p List.mem_cons_self,
        ih fun q hq => hvalues q (List.mem_cons_of_mem p hq)⟩

theorem same_correlations_iff {xs ys : List (List Nat)} :
    Json.Same (shown (.list none (xs.map Summary.ofPlaces)))
      (shown (.list none (ys.map Summary.ofPlaces))) ↔ xs = ys := by
  show Json.SameList (shownItems _) (shownItems _) ↔ _
  rw [shownItems_map, shownItems_map]
  exact Json.sameList_map_iff fun _ _ => same_ofPlaces_iff

end Datum

/-! ## Summaries -/

/-- JSON has what a template keeps: its identifier is a text, and its payload is plain. -/
def TemplateInfo.IsPlain (t : TemplateInfo) : Prop :=
  (∃ text, t.identifier = .str text) ∧ Datum.IsPlainItems [] t.payload

theorem Descriptor.isPlain_toDatum {d : Descriptor} (hidentifier : ∃ text, d.identifier = .str text)
    (hdata : ∀ items, d.data = some items → Datum.IsPlainItems [] items) :
    d.toDatum.IsPlain [] := by
  obtain ⟨type, identifier, data⟩ := d
  obtain ⟨text, rfl⟩ := hidentifier
  cases data with
  | none =>
    show Datum.IsPlain [] (.ofFields [("type", .str type), ("identifier", .str text)])
    apply Datum.isPlain_ofFields
    · simp
    · simp
  | some items =>
    have hitems : Datum.IsPlain [] (.list none items) := ⟨rfl, hdata items rfl⟩
    show Datum.IsPlain [] (.ofFields [("type", .str type), ("identifier", .str text),
      ("data", .list none items)])
    apply Datum.isPlain_ofFields
    · simp
    · simp [hitems]

theorem TemplateInfo.IsPlain.data_describe {t : TemplateInfo} (h : t.IsPlain) {items : List Datum}
    (hitems : t.describe.data = some items) : Datum.IsPlainItems [] items := by
  unfold TemplateInfo.describe at hitems
  cases hp : t.payload.isEmpty <;> rw [hp] at hitems <;> cases hitems
  exact h.2

theorem isPlain_describe {t : TemplateInfo} (h : t.IsPlain) : t.describe.toDatum.IsPlain [] :=
  Descriptor.isPlain_toDatum h.1 fun _ => h.data_describe

namespace Summary

theorem isPlain_ofStrings (names : List String) : Datum.IsPlain [] (.ofStrings names) :=
  ⟨rfl, Datum.isPlainItems_map (Datum.isPlain_str []) names⟩

theorem isPlain_ofPlaces (places : List Nat) : Datum.IsPlain [] (ofPlaces places) :=
  ⟨rfl, Datum.isPlainItems_map (fun i => Datum.isPlain_int [] (Int.ofNat i)) places⟩

theorem isPlain_correlations (correlations : List (List Nat)) :
    Datum.IsPlain [] (.list none (correlations.map ofPlaces)) :=
  ⟨rfl, Datum.isPlainItems_map isPlain_ofPlaces correlations⟩

theorem isPlain_toDatum {s : Summary} (htemplate : s.template.toDatum.IsPlain [])
    (hblocks : (Entries.keys s.blocks).Nodup) : s.toDatum.IsPlain [] := by
  have hsources : Datum.IsPlain [] (.ofFields (Entries.mapValues .str s.blocks)) := by
    rw [← Entries.keys_mapValues Datum.str] at hblocks
    apply Datum.isPlain_ofFields hblocks
    intro p hp
    obtain ⟨q, -, rfl⟩ := List.mem_map.1 hp
    trivial
  apply Datum.isPlain_ofFields
  · simp
  · simp [htemplate, hsources, isPlain_ofStrings, isPlain_ofPlaces, isPlain_correlations]

theorem same_toDatum_iff {s s' : Summary} (h : (Entries.keys s.blocks).Nodup)
    (h' : (Entries.keys s'.blocks).Nodup) :
    Json.Same s.toDatum.shown s'.toDatum.shown ↔
      Json.Same s.template.toDatum.shown s'.template.toDatum.shown ∧
      (∀ name, Entries.get? s.blocks name = Entries.get? s'.blocks name) ∧
      s.stylesFound = s'.stylesFound ∧ s.dynamicStyles = s'.dynamicStyles ∧
      s.styleCorrelations = s'.styleCorrelations := by
  rw [← Datum.same_texts_iff h h', ← Datum.same_ofStrings_iff, ← Datum.same_ofPlaces_iff,
    ← Datum.same_correlations_iff]
  unfold toDatum
  rw [Datum.shown_ofFields, Datum.shown_ofFields]
  simp [Json.Same, Json.SameFields]

end Summary

/-! ## Analyses -/

namespace Analysis

variable {β σ β' σ' : Type} [DecidableEq β] [DecidableEq β'] (c : Catalog β σ) (c' : Catalog β' σ')

/-- The names of the members of each correlation of two styles or more. -/
def correlationNames (a : Analysis β σ) : List (List String) :=
  (a.correlations.filter fun s => 1 < s.size).map (a.namesOf c)

theorem styleCorrelations_summarize (a : Analysis β σ) : (a.summarize c).styleCorrelations =
    (a.correlationNames c).map (placesIn (a.summarize c).stylesFound) := by
  unfold correlationNames
  rw [List.map_map]
  rfl

theorem dynamicStyles_summarize (a : Analysis β σ) : (a.summarize c).dynamicStyles =
    placesIn (a.summarize c).stylesFound (a.namesOf c a.dynamic) := rfl

theorem correlationNames_subset {a : Analysis β σ} (h : a.Coherent) :
    ∀ names ∈ a.correlationNames c, ∀ n ∈ names, n ∈ (a.summarize c).stylesFound := by
  intro names hnames
  obtain ⟨s, hs, rfl⟩ := List.mem_map.1 hnames
  exact namesOf_subset c (h.correlation_found s (List.mem_of_mem_filter hs))

/-- Summaries with the same names have the same correlations exactly if the analyses give the same
names for them in the same order. -/
theorem styleCorrelations_eq_iff {a : Analysis β σ} {a' : Analysis β' σ'} (h : a.Coherent)
    (h' : a'.Coherent) (hnames : (a.summarize c).stylesFound = (a'.summarize c').stylesFound) :
    (a.summarize c).styleCorrelations = (a'.summarize c').styleCorrelations ↔
      List.Forall₂ List.Perm (a.correlationNames c) (a'.correlationNames c') := by
  have hcorrelations := correlationNames_subset c h
  have hcorrelations' := correlationNames_subset c' h'
  rw [← hnames] at hcorrelations'
  rw [styleCorrelations_summarize, styleCorrelations_summarize, ← hnames]
  exact map_placesIn_eq_iff hcorrelations hcorrelations'

/-- The names in the summaries of two coherent analyses are the same exactly if they are in the
analyses, up to order. -/
theorem summarize_names_iff {a : Analysis β σ} {a' : Analysis β' σ'} (h : a.Coherent)
    (h' : a'.Coherent) :
    ((a.summarize c).stylesFound = (a'.summarize c').stylesFound ∧
      (a.summarize c).dynamicStyles = (a'.summarize c').dynamicStyles ∧
      (a.summarize c).styleCorrelations = (a'.summarize c').styleCorrelations) ↔
      (a.namesOf c a.found).Perm (a'.namesOf c' a'.found) ∧
      (a.namesOf c a.dynamic).Perm (a'.namesOf c' a'.dynamic) ∧
      List.Forall₂ List.Perm (a.correlationNames c) (a'.correlationNames c') := by
  have hfound : (a.summarize c).stylesFound = (a'.summarize c').stylesFound ↔
      (a.namesOf c a.found).Perm (a'.namesOf c' a'.found) := mergeSort_eq_iff_perm
  rw [← hfound]
  apply and_congr_right
  intro hnames
  have hdynamic := namesOf_subset c h.dynamic_found
  have hdynamic' : ∀ n ∈ a'.namesOf c' a'.dynamic, n ∈ (a.summarize c).stylesFound := by
    rw [hnames]
    exact namesOf_subset c' h'.dynamic_found
  rw [styleCorrelations_eq_iff c c' h h' hnames, dynamicStyles_summarize, dynamicStyles_summarize,
    ← hnames]
  exact and_congr_left' (placesIn_eq_iff hdynamic hdynamic')

theorem keys_blocks_summarize {a : Analysis β σ} (h : a.Coherent) :
    (Entries.keys (a.summarize c).blocks).Nodup :=
  (Entries.keys_mapValues c.source a.bindings).symm ▸ h.names_nodup

/-- The canonical texts of the analyses of two walks exist, and they are one text exactly if the
analyses agree in what is content: the template, the sources under the local names, and up to order
the names of the found styles, of the dynamic styles, and of the members of each correlation of two
styles or more. The steps may fail, and the walks need not share a block or a style. -/
theorem canonical_eq_iff_same_content [DecidableEq σ] [DecidableEq σ'] {t t' : TemplateInfo}
    (ht : t.IsPlain) (ht' : t'.IsPlain) (steps : List (WalkStep β σ))
    (steps' : List (WalkStep β' σ')) :
    let a := (begin t).run steps
    let a' := (begin t').run steps'
    ∃ text text', (a.summarize c).canonical = .ok text ∧ (a'.summarize c').canonical = .ok text' ∧
      (text = text' ↔
        Json.Same t.describe.toDatum.shown t'.describe.toDatum.shown ∧
        (∀ name, (Entries.get? a.bindings name).map c.source =
          (Entries.get? a'.bindings name).map c'.source) ∧
        (a.namesOf c a.found).Perm (a'.namesOf c' a'.found) ∧
        (a.namesOf c a.dynamic).Perm (a'.namesOf c' a'.dynamic) ∧
        List.Forall₂ List.Perm (a.correlationNames c) (a'.correlationNames c')) := by
  intro a a'
  have h : a.Coherent := coherent_run t steps
  have h' : a'.Coherent := coherent_run t' steps'
  have htemplate : (a.summarize c).template = t.describe :=
    congrArg TemplateInfo.describe (template_run (begin t) steps)
  have htemplate' : (a'.summarize c').template = t'.describe :=
    congrArg TemplateInfo.describe (template_run (begin t') steps')
  have hplain : (a.summarize c).toDatum.IsPlain [] := Summary.isPlain_toDatum
    (htemplate ▸ isPlain_describe ht) (keys_blocks_summarize c h)
  have hplain' : (a'.summarize c').toDatum.IsPlain [] := Summary.isPlain_toDatum
    (htemplate' ▸ isPlain_describe ht') (keys_blocks_summarize c' h')
  refine ⟨_, _, Datum.canonical_eq_ok hplain, Datum.canonical_eq_ok hplain', ?_⟩
  have htext := Json.canonical_eq_iff (Datum.isPlain_shown hplain) (Datum.isPlain_shown hplain')
  have hparts := Summary.same_toDatum_iff (keys_blocks_summarize c h) (keys_blocks_summarize c' h')
  rw [htemplate, htemplate', summarize_names_iff c c' h h'] at hparts
  have hblocks : ∀ name, Entries.get? (a.summarize c).blocks name =
      (Entries.get? a.bindings name).map c.source := Entries.get?_mapValues c.source a.bindings
  have hblocks' : ∀ name, Entries.get? (a'.summarize c').blocks name =
      (Entries.get? a'.bindings name).map c'.source := Entries.get?_mapValues c'.source a'.bindings
  simp only [hblocks, hblocks'] at hparts
  exact htext.trans hparts

/-- Two walks of one template over different handles: the second one binds its blocks in another
order, adds its styles in another order and more than once, and ends an element without styles. -/
theorem canonical_eq_iff_same_content_reordered :
    let t : TemplateInfo := ⟨.base, .str "page", [.map (some 0) [(.str "on", .bool true)]]⟩
    let c : Catalog Nat Nat :=
      ⟨fun b => "block" ++ toString b, [], fun x => x / 10, fun x => "." ++ toString (x % 10)⟩
    let c' : Catalog Bool (Bool × Nat) :=
      ⟨fun b => if b then "block1" else "block2", [], Prod.fst, fun x => "." ++ toString x.2⟩
    let steps : List (WalkStep Nat Nat) :=
      [.bind "one" 1, .bind "two" 2, .start, .add 11, .add 21, .mark 21, .finish]
    let steps' : List (WalkStep Bool (Bool × Nat)) :=
      [.bind "two" false, .bind "one" true, .start, .finish, .add (false, 1), .add (true, 1),
        .add (false, 1), .start, .mark (false, 1), .finish]
    let a := (begin t).run steps
    let a' := (begin t).run steps'
    t.IsPlain ∧
    ∃ text text', (a.summarize c).canonical = .ok text ∧ (a'.summarize c').canonical = .ok text' ∧
      (text = text' ↔
        Json.Same t.describe.toDatum.shown t.describe.toDatum.shown ∧
        (∀ name, (Entries.get? a.bindings name).map c.source =
          (Entries.get? a'.bindings name).map c'.source) ∧
        (a.namesOf c a.found).Perm (a'.namesOf c' a'.found) ∧
        (a.namesOf c a.dynamic).Perm (a'.namesOf c' a'.dynamic) ∧
        List.Forall₂ List.Perm (a.correlationNames c) (a'.correlationNames c')) := by
  intro t c c' steps steps'
  have ht : t.IsPlain :=
    ⟨⟨"page", rfl⟩, ⟨rfl, List.nodup_singleton _, ⟨"on", rfl⟩, trivial, trivial⟩, trivial⟩
  exact ⟨ht, canonical_eq_iff_same_content c c' ht ht steps steps'⟩

end Analysis

end StyleUsage
