import StyleUsage.Proofs.Summary.Order
import StyleUsage.Proofs.Walk.Replay
import StyleUsage.Walk.Reader

/-!
# Walks in another order

Two scripts tell one walk in two orders if they have the template, the blocks and the bindings in
common, and their elements up to order, also within an element (`Reordered`). Everything in the
summaries of their replays is the same, except that the correlations are in the order of the
elements (`summarize_of_reordered`). So the canonical texts are one text only if the elements of two
styles or more give the same names in the same order (`canonical_eq_iff_of_reordered`).
-/

namespace StyleUsage

/-- The references of two elements are the same up to order. -/
structure WalkElement.SameReferences (e e' : WalkElement) : Prop where
  styles : e.styles.Perm e'.styles
  dynamic : e.dynamic.Perm e'.dynamic

namespace WalkScript

open Analysis

/-- Two scripts differ in the order of elements, and of references in an element, alone. -/
structure Reordered (s s' : WalkScript) : Prop where
  template : s.template = s'.template
  blocks : s.blocks = s'.blocks
  bound : s.bound = s'.bound
  elements : ∃ es, List.Forall₂ WalkElement.SameReferences s.elements es ∧ es.Perm s'.elements

variable {s s' : WalkScript} {registry : Registry} {a a' : Analysis String StyleRef}

/-! ## What does not depend on the order -/

theorem Reordered.exists_iff (h : s.Reordered s') {P : WalkElement → Prop}
    (hP : ∀ e e', e.SameReferences e' → (P e ↔ P e')) :
    (∃ e ∈ s.elements, P e) ↔ ∃ e ∈ s'.elements, P e := by
  obtain ⟨es, hall, hperm⟩ := h.elements
  rw [exists_iff_of_forall₂ hall hP]
  simp only [hperm.mem_iff]

theorem Reordered.filterMap_perm (h : s.Reordered s') {γ : Type} {f : WalkElement → Option γ}
    (hf : ∀ e e', e.SameReferences e' → f e = f e') :
    (s.elements.filterMap f).Perm (s'.elements.filterMap f) := by
  obtain ⟨es, hall, hperm⟩ := h.elements
  rw [filterMap_eq_of_forall₂ hall hf]
  exact hperm.filterMap f

theorem stylesOf_congr (h : s.blocks = s'.blocks) : s.stylesOf = s'.stylesOf := by
  funext references
  unfold stylesOf resolve
  rw [h]

theorem catalog_congr (h : s.blocks = s'.blocks) : s.catalog = s'.catalog := by
  unfold catalog source declared
  rw [h]

theorem stylesOf_perm {rs rs' : List String} (h : rs.Perm rs') :
    (s.stylesOf rs).Perm (s.stylesOf rs') :=
  h.filterMap _

/-! ## The summaries -/

variable (c : Catalog String StyleRef)

theorem namesOf_perm (h : a.bindings = a'.bindings) {styles styles' : OrderedSet StyleRef}
    (hmem : ∀ x, x ∈ styles ↔ x ∈ styles') : (a.namesOf c styles).Perm (a'.namesOf c styles') := by
  unfold namesOf
  rw [canonicalName_congr c h]
  exact (OrderedSet.perm_of_mem_iff hmem).map _

theorem styleCorrelations_of_replayed (h : s.Replayed a) : (a.summarize c).styleCorrelations =
    s.elements.filterMap fun e => (s.sharedStyles? e).map fun xs =>
      placesIn (a.summarize c).stylesFound (xs.map (a.canonicalName c)) := by
  rw [← List.map_filterMap, ← h.large_correlations, List.map_map]
  rfl

theorem sharedStyles?_congr (h : s.blocks = s'.blocks) : s.sharedStyles? = s'.sharedStyles? := by
  funext e
  unfold sharedStyles?
  rw [stylesOf_congr h]

/-- The places of the styles of an element do not depend on the order of its references. -/
theorem places_sharedStyles? (sorted : List String) (name : StyleRef → String)
    {e e' : WalkElement} (he : e.SameReferences e') :
    (s.sharedStyles? e).map (fun xs => placesIn sorted (xs.map name)) =
      (s.sharedStyles? e').map fun xs => placesIn sorted (xs.map name) := by
  have hperm := eraseDups_perm fun x => (stylesOf_perm (s := s) he.styles).mem_iff
  unfold sharedStyles?
  dsimp only
  rw [hperm.length_eq]
  by_cases hlen : 1 < (s.stylesOf e'.styles).eraseDups.length
  · rw [if_pos hlen, if_pos hlen]
    exact congrArg some (mergeSort_eq_iff_perm.2 ((hperm.map name).map _))
  · rw [if_neg hlen, if_neg hlen]

theorem coherent_of_replay (h : s.replay registry = .ok a) : a.Coherent := by
  obtain ⟨info, -, hrun⟩ := replay_cases h
  rw [← run_of_runAll hrun]
  exact coherent_run info s.trace

/-- Replays on one template lead to analyses of one template. -/
theorem template_of_replay (ht : s.template = s'.template) (h : s.replay registry = .ok a)
    (h' : s'.replay registry = .ok a') : a.template = a'.template := by
  obtain ⟨info, hinfo, hrun⟩ := replay_cases h
  obtain ⟨info', hinfo', hrun'⟩ := replay_cases h'
  rw [ht, hinfo'] at hinfo
  rw [← run_of_runAll hrun, ← run_of_runAll hrun', template_run, template_run,
    Except.ok.inj hinfo]

theorem Reordered.mem_found_iff (hr : s.Reordered s') (hs : s.Replayed a) (hs' : s'.Replayed a')
    (x : StyleRef) : x ∈ a.found ↔ x ∈ a'.found := by
  rw [hs.mem_found, hs'.mem_found, ← stylesOf_congr hr.blocks]
  exact hr.exists_iff fun e e' he => (stylesOf_perm he.styles).mem_iff

theorem Reordered.mem_dynamic_iff (hr : s.Reordered s') (hs : s.Replayed a) (hs' : s'.Replayed a')
    (x : StyleRef) : x ∈ a.dynamic ↔ x ∈ a'.dynamic := by
  rw [hs.mem_dynamic, hs'.mem_dynamic, ← stylesOf_congr hr.blocks]
  exact hr.exists_iff fun e e' he => (stylesOf_perm he.dynamic).mem_iff

/-- The summaries of replays in two orders differ in the order of the correlations alone. -/
theorem summarize_of_reordered (hr : s.Reordered s') (h : s.replay registry = .ok a)
    (h' : s'.replay registry = .ok a') :
    let w := a.summarize s.catalog
    let w' := a'.summarize s'.catalog
    w.template = w'.template ∧ w.blocks = w'.blocks ∧ w.stylesFound = w'.stylesFound ∧
      w.dynamicStyles = w'.dynamicStyles ∧ w.styleCorrelations.Perm w'.styleCorrelations := by
  intro w w'
  have hs := replayed_of_replay h
  have hs' := replayed_of_replay h'
  have hcatalog : s.catalog = s'.catalog := catalog_congr hr.blocks
  have hbindings : a.bindings = a'.bindings := by rw [hs.bindings, hs'.bindings, hr.bound]
  have hfoundNames := namesOf_perm s.catalog hbindings (hr.mem_found_iff hs hs')
  have hdynamicNames := namesOf_perm s.catalog hbindings (hr.mem_dynamic_iff hs hs')
  have hnames : w.stylesFound = w'.stylesFound := by
    show _ = (a'.namesOf s'.catalog a'.found).mergeSort
    rw [← hcatalog]
    exact mergeSort_eq_iff_perm.2 hfoundNames
  refine ⟨congrArg TemplateInfo.describe (template_of_replay hr.template h h'), ?_, hnames, ?_, ?_⟩
  · show Entries.mapValues s.catalog.source a.bindings =
      Entries.mapValues s'.catalog.source a'.bindings
    rw [hcatalog, hbindings]
  · rw [dynamicStyles_summarize, dynamicStyles_summarize, hnames, ← hcatalog]
    exact mergeSort_eq_iff_perm.2 (hdynamicNames.map _)
  · rw [styleCorrelations_of_replayed _ hs, styleCorrelations_of_replayed _ hs', hnames, ← hcatalog,
      canonicalName_congr _ hbindings, ← sharedStyles?_congr hr.blocks]
    exact hr.filterMap_perm fun e e' he => places_sharedStyles? _ _ he

/-- The names of the styles of each element that has two or more. -/
def sharedNames (s : WalkScript) : List (List String) :=
  (s.elements.filterMap s.sharedStyles?).map fun xs => xs.map s.styleName

theorem correlationNames_of_replayed (h : s.Replayed a) :
    a.correlationNames s.catalog = s.sharedNames := by
  unfold correlationNames sharedNames
  rw [← h.large_correlations, List.map_map, ← h.canonicalName_eq]
  rfl

/-- The correlations of replays in two orders are the same exactly if the elements of two styles or
more have the same names in the same order. -/
theorem styleCorrelations_eq_iff_of_reordered (hr : s.Reordered s') (h : s.replay registry = .ok a)
    (h' : s'.replay registry = .ok a') :
    (a.summarize s.catalog).styleCorrelations = (a'.summarize s'.catalog).styleCorrelations ↔
      List.Forall₂ List.Perm s.sharedNames s'.sharedNames := by
  obtain ⟨-, -, hfound, -, -⟩ := summarize_of_reordered hr h h'
  rw [← correlationNames_of_replayed (replayed_of_replay h),
    ← correlationNames_of_replayed (replayed_of_replay h')]
  exact styleCorrelations_eq_iff _ _ (coherent_of_replay h) (coherent_of_replay h') hfound

/-- The summaries of replays in two orders have the same parts but for the order of the
correlations. If the elements of two styles or more have the same names in the same order in both
scripts, then the canonical texts are one text and the digests are one digest. Otherwise, if there
is a canonical text at all, there are two. -/
theorem canonical_eq_iff_of_reordered (hr : s.Reordered s') (h : s.replay registry = .ok a)
    (h' : s'.replay registry = .ok a') :
    let w := a.summarize s.catalog
    let w' := a'.summarize s'.catalog
    let sameOrder := List.Forall₂ List.Perm s.sharedNames s'.sharedNames
    (w.template = w'.template ∧ w.blocks = w'.blocks ∧ w.stylesFound = w'.stylesFound ∧
      w.dynamicStyles = w'.dynamicStyles ∧ w.styleCorrelations.Perm w'.styleCorrelations) ∧
    (sameOrder → w.canonical = w'.canonical ∧ w.digest = w'.digest) ∧
      ∀ text, w.canonical = .ok text → (w.canonical = w'.canonical ↔ sameOrder) := by
  intro w w' sameOrder
  refine ⟨summarize_of_reordered hr h h', ?_⟩
  obtain ⟨htemplate, hblocks, hfound, hdynamic, -⟩ := summarize_of_reordered hr h h'
  have horder : w.styleCorrelations = w'.styleCorrelations ↔ sameOrder :=
    styleCorrelations_eq_iff_of_reordered hr h h'
  constructor
  · intro hsame
    have heq : w = w' := Summary.eq_of_parts htemplate hblocks hfound hdynamic (horder.2 hsame)
    exact ⟨congrArg Summary.canonical heq, congrArg Summary.digest heq⟩
  · intro text htext
    rw [← horder]
    exact Summary.canonical_eq_iff_correlations htemplate hblocks hfound hdynamic htext

/-! ## Two elements -/

/-- A script of one block with three styles, and of two elements. -/
def twoElements (first second : List String) : WalkScript where
  template := ⟨TemplateKind.base.typeName, .str "page", none⟩
  blocks := [("a", ⟨"a.css", OrderedSet.ofList [".x", ".y", ".z"], []⟩)]
  bound := ["a"]
  elements := [⟨first, []⟩, ⟨second, []⟩]

/-- The value that the script is read from. -/
def twoElementsDatum (first second : List String) : Datum :=
  .ofFields [
    ("blocks", .ofFields [("a", .ofFields [
      ("source", .str "a.css"), ("styles", .ofStrings [".x", ".y", ".z"])])]),
    ("elements", .list none [.ofStrings first, .ofStrings second])]

theorem reordered_twoElements (first second : List String) :
    (twoElements first second).Reordered (twoElements second first) where
  template := rfl
  blocks := rfl
  bound := rfl
  elements := ⟨_, .cons ⟨.rfl, .rfl⟩ (.cons ⟨.rfl, .rfl⟩ .nil), .swap _ _ _⟩

theorem canonical_eq_iff_of_reordered_twoElements :
    let s := twoElements ["a.x", "a.y"] ["a.x", "a.z"]
    let s' := twoElements ["a.x", "a.z"] ["a.x", "a.y"]
    ∃ a a', s.Reordered s' ∧ s.replay .initial = .ok a ∧ s'.replay .initial = .ok a' ∧
      let w := a.summarize s.catalog
      let w' := a'.summarize s'.catalog
      let sameOrder := List.Forall₂ List.Perm s.sharedNames s'.sharedNames
      (w.template = w'.template ∧ w.blocks = w'.blocks ∧ w.stylesFound = w'.stylesFound ∧
        w.dynamicStyles = w'.dynamicStyles ∧ w.styleCorrelations.Perm w'.styleCorrelations) ∧
      (sameOrder → w.canonical = w'.canonical ∧ w.digest = w'.digest) ∧
        ∀ text, w.canonical = .ok text → (w.canonical = w'.canonical ↔ sameOrder) := by
  intro s s'
  have hr : s.Reordered s' := reordered_twoElements _ _
  obtain ⟨a, ha⟩ : ∃ a, s.replay .initial = .ok a := ⟨_, rfl⟩
  obtain ⟨a', ha'⟩ : ∃ a', s'.replay .initial = .ok a' := ⟨_, rfl⟩
  exact ⟨a, a', hr, ha, ha', canonical_eq_iff_of_reordered hr ha ha'⟩

/-- Scripts that are read and replayed in two orders do not always have one canonical text. -/
theorem canonical_depends_on_order :
    ¬ ∀ (identifier : String) (d d' : Datum) (s s' : WalkScript) (registry : Registry)
      (a a' : Analysis String StyleRef), read identifier d = .ok s → read identifier d' = .ok s' →
      s.Reordered s' → s.replay registry = .ok a → s'.replay registry = .ok a' →
      (a.summarize s.catalog).canonical = (a'.summarize s'.catalog).canonical ∧
        (a.summarize s.catalog).digest = (a'.summarize s'.catalog).digest := by
  intro hall
  let s := twoElements ["a.x", "a.y"] ["a.x", "a.z"]
  let s' := twoElements ["a.x", "a.z"] ["a.x", "a.y"]
  have hread : read "page" (twoElementsDatum ["a.x", "a.y"] ["a.x", "a.z"]) = .ok s := rfl
  have hread' : read "page" (twoElementsDatum ["a.x", "a.z"] ["a.x", "a.y"]) = .ok s' := rfl
  obtain ⟨a, h, ht⟩ : ∃ a, s.replay .initial = .ok a ∧ a.template = ⟨.base, .str "page", []⟩ :=
    ⟨_, rfl, rfl⟩
  obtain ⟨a', h'⟩ : ∃ a', s'.replay .initial = .ok a' := ⟨_, rfl⟩
  have hr : s.Reordered s' := reordered_twoElements _ _
  have heq := (hall _ _ _ s s' _ a a' hread hread' hr h h').1
  have hplain : a.template.IsPlain := by
    rw [ht]
    exact ⟨⟨"page", rfl⟩, trivial⟩
  have htext := Datum.canonical_eq_ok (Summary.isPlain_toDatum (s := a.summarize s.catalog)
    (isPlain_describe hplain) (keys_blocks_summarize _ (coherent_of_replay h)))
  obtain ⟨htemplate, hblocks, hfound, hdynamic, -⟩ := summarize_of_reordered hr h h'
  rw [Summary.canonical_eq_iff_correlations htemplate hblocks hfound hdynamic htext,
    styleCorrelations_eq_iff_of_reordered hr h h'] at heq
  -- The first elements have the names `a.x` and `a.y` here, and `a.x` and `a.z` there.
  have hnames : s.sharedNames = [["a.x", "a.y"], ["a.x", "a.z"]] := rfl
  have hnames' : s'.sharedNames = [["a.x", "a.z"], ["a.x", "a.y"]] := rfl
  rw [hnames, hnames', List.forall₂_cons] at heq
  exact absurd heq.1 (by decide)

end WalkScript

end StyleUsage
