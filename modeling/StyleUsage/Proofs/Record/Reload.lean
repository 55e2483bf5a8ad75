import StyleUsage.Analysis.Record
import StyleUsage.Proofs.Analysis.Lookup

/-!
# Loading summaries back

Writer and reader of summaries agree. A summary in which the names and the places are sorted, every
place is that of a name and every correlation has two places (`Summary.WellFormed`) is read back as
it was written, once its template can be rebuilt (`read_toDatum`). The summary of an analysis that
steps lead to is of this form, so it loads back (`summary_loads_back`).
-/

namespace StyleUsage

/-- What reading asks of a summary, the registry aside. -/
structure Summary.WellFormed (s : Summary) : Prop where
  identifier_text : ∃ text, s.template.identifier = .str text
  names_sorted : s.stylesFound.Pairwise (· ≤ ·)
  dynamic_sorted : s.dynamicStyles.Pairwise (· ≤ ·)
  dynamic_lt : ∀ i ∈ s.dynamicStyles, i < s.stylesFound.length
  correlation_sorted : ∀ c ∈ s.styleCorrelations, c.Pairwise (· ≤ ·)
  correlation_lt : ∀ c ∈ s.styleCorrelations, ∀ i ∈ c, i < s.stylesFound.length
  two_le_length : ∀ c ∈ s.styleCorrelations, 2 ≤ c.length

/-! ## Reading the parts -/

namespace Record

theorem isAscending_of_pairwise {α : Type} [LE α] [DecidableLE α] :
    ∀ {xs : List α}, xs.Pairwise (· ≤ ·) → isAscending xs = true
  | [], _ => rfl
  | [_], _ => rfl
  | a :: b :: rest, h => by
    have hab := (List.pairwise_cons.1 h).1 b List.mem_cons_self
    unfold isAscending
    rw [decide_eq_true hab, isAscending_of_pairwise (List.pairwise_cons.1 h).2]
    rfl

theorem readPlaces_ofPlaces {size : Nat} {places : List Nat} (part : PlaceList)
    (hsorted : places.Pairwise (· ≤ ·)) (hlt : ∀ i ∈ places, i < size) :
    readPlaces size part (Summary.ofPlaces places) = .ok places := by
  have hread : ∀ i ∈ places, readPlace size part (.int (Int.ofNat i)) = .ok i := by
    intro i hi
    have h := hlt i hi
    exact if_pos ⟨Int.natCast_nonneg i, Int.ofNat_lt.2 h⟩
  have hmap : (places.map fun i => Datum.int (Int.ofNat i)).mapM (readPlace size part) =
      .ok places := mapM_map_eq_pure hread
  show (do
    let places' ← (places.map fun i => Datum.int (Int.ofNat i)).mapM (readPlace size part)
    if isAscending places' then .ok places' else .error (.unsorted part)) = _
  rw [hmap]
  exact if_pos (isAscending_of_pairwise hsorted)

theorem readCorrelations_ofPlaces {size : Nat} :
    ∀ {correlations : List (List Nat)} (n : Nat),
      (∀ c ∈ correlations, c.Pairwise (· ≤ ·)) →
      (∀ c ∈ correlations, ∀ i ∈ c, i < size) → (∀ c ∈ correlations, 2 ≤ c.length) →
      readCorrelations size n (correlations.map Summary.ofPlaces) = .ok correlations
  | [], _, _, _, _ => rfl
  | c :: rest, n, hsorted, hlt, hlen => by
    have hhead := readPlaces_ofPlaces (.correlation n) (hsorted c List.mem_cons_self)
      (hlt c List.mem_cons_self)
    have hrest := readCorrelations_ofPlaces (n + 1)
      (fun c' hc => hsorted c' (List.mem_cons_of_mem c hc))
      (fun c' hc => hlt c' (List.mem_cons_of_mem c hc))
      (fun c' hc => hlen c' (List.mem_cons_of_mem c hc))
    have htwo := hlen c List.mem_cons_self
    rw [List.map_cons, readCorrelations, hhead]
    show (if c.length < 2 then _ else _) = _
    rw [if_neg (by omega), hrest]
    rfl

theorem readTemplate_toDatum {d : Descriptor} {text : String} (h : d.identifier = .str text) :
    readTemplate d.toDatum = .ok d := by
  obtain ⟨type, identifier, data⟩ := d
  cases h
  cases data <;> simp [readTemplate, Descriptor.toDatum, Datum.ofFields, Datum.entries?,
    Datum.opened, Datum.lookup?, Datum.lookup, Datum.items?]

theorem readBlocks_ofFields (blocks : Entries String String) :
    readBlocks (.ofFields (Entries.mapValues .str blocks)) = .ok blocks := by
  have hentries : (Datum.ofFields (Entries.mapValues .str blocks)).entries? =
      some (blocks.map fun p => (Datum.str p.1, Datum.str p.2)) := by
    show some ((blocks.map fun p => (p.1, Datum.str p.2)).map _) = _
    rw [List.map_map]
    rfl
  unfold readBlocks
  rw [hentries]
  dsimp only [Option.bind_some]
  rw [mapM_map_eq_pure (m := Option)
    (f := fun p : String × String => (Datum.str p.1, Datum.str p.2)) fun p _ => rfl]
  rfl

theorem readStyles_ofStrings {names : List String} (h : names.Pairwise (· ≤ ·)) :
    readStyles (.ofStrings names) = .ok names := by
  have hitems : (Datum.ofStrings names).items? = some (names.map Datum.str) := rfl
  have hmap : (names.map Datum.str).mapM Datum.text? = some names :=
    mapM_map_eq_pure fun name _ => rfl
  unfold readStyles
  rw [hitems, Option.bind_some, hmap]
  exact if_pos (isAscending_of_pairwise h)

/-- Reading a summary reads its parts one after another. -/
theorem read_toDatum_parts (registry : Registry) (s : Summary) : read registry s.toDatum = (do
    let descriptor ← readTemplate s.template.toDatum
    let blocks ← readBlocks (.ofFields (Entries.mapValues .str s.blocks))
    let stylesFound ← readStyles (.ofStrings s.stylesFound)
    let dynamicStyles ← readPlaces stylesFound.length .dynamicStyles
      (Summary.ofPlaces s.dynamicStyles)
    let styleCorrelations ← readCorrelations stylesFound.length 0
      (s.styleCorrelations.map Summary.ofPlaces)
    let template ← (registry.rebuild descriptor).mapError RecordError.template
    Except.ok (Record.mk template blocks stylesFound dynamicStyles styleCorrelations)) := rfl

/-- A well-formed summary is read back, once its template is rebuilt. -/
theorem read_toDatum_eq {registry : Registry} {s : Summary} (hs : s.WellFormed) :
    read registry s.toDatum = ((registry.rebuild s.template).mapError .template).map
      fun info => ⟨info, s.blocks, s.stylesFound, s.dynamicStyles, s.styleCorrelations⟩ := by
  obtain ⟨text, htext⟩ := hs.identifier_text
  have htemplate := readTemplate_toDatum htext
  have hblocks := readBlocks_ofFields s.blocks
  have hstyles := readStyles_ofStrings hs.names_sorted
  have hdynamic := readPlaces_ofPlaces .dynamicStyles hs.dynamic_sorted hs.dynamic_lt
  have hcorrelations := readCorrelations_ofPlaces 0 hs.correlation_sorted hs.correlation_lt
    hs.two_le_length
  rw [read_toDatum_parts, htemplate, hblocks, hstyles]
  show (do
    let dynamicStyles ← readPlaces s.stylesFound.length .dynamicStyles
      (Summary.ofPlaces s.dynamicStyles)
    let styleCorrelations ← readCorrelations s.stylesFound.length 0
      (s.styleCorrelations.map Summary.ofPlaces)
    let template ← (registry.rebuild s.template).mapError RecordError.template
    Except.ok (Record.mk template s.blocks s.stylesFound dynamicStyles styleCorrelations)) = _
  rw [hdynamic, hcorrelations]
  cases registry.rebuild s.template <;> rfl

/-- A well-formed summary whose template can be rebuilt is read back. -/
theorem read_toDatum {registry : Registry} {s : Summary} {info : TemplateInfo}
    (hs : s.WellFormed) (hr : registry.rebuild s.template = .ok info) :
    read registry s.toDatum =
      .ok ⟨info, s.blocks, s.stylesFound, s.dynamicStyles, s.styleCorrelations⟩ := by
  rw [read_toDatum_eq hs, hr]
  rfl

end Record

/-! ## The summary of an analysis -/

namespace Analysis

variable {β σ : Type} [DecidableEq β] (c : Catalog β σ)

/-- The summary of a coherent analysis is well formed. -/
theorem wellFormed_summarize {a : Analysis β σ} (h : a.Coherent) {text : String}
    (ht : a.template.identifier = .str text) : (a.summarize c).WellFormed where
  identifier_text := ⟨text, ht⟩
  names_sorted := pairwise_mergeSort_le _
  dynamic_sorted := pairwise_placesIn _ _
  dynamic_lt _ hi := lt_of_mem_placesIn (namesOf_subset c h.dynamic_found) hi
  correlation_sorted s hs := by
    obtain ⟨set, -, rfl⟩ := List.mem_map.1 hs
    exact pairwise_placesIn _ _
  correlation_lt s hs i hi := by
    obtain ⟨set, hset, rfl⟩ := List.mem_map.1 hs
    have hfound := h.correlation_found set (List.mem_of_mem_filter hset)
    exact lt_of_mem_placesIn (namesOf_subset c hfound) hi
  two_le_length s hs := by
    obtain ⟨set, hset, rfl⟩ := List.mem_map.1 hs
    rw [length_placesIn, namesOf, List.length_map]
    exact of_decide_eq_true (List.mem_filter.1 hset).2

/-- In every state that steps lead to, no lookup for the summary fails, and the summary is read back
as a record with the same summary under every registry that rebuilds the template. -/
theorem summary_loads_back [DecidableEq σ] {registry : Registry} {t info : TemplateInfo}
    {text : String} (ht : t.identifier = .str text)
    (hrebuild : registry.rebuild t.describe = .ok info) (hinfo : info.describe = t.describe)
    (steps : List (WalkStep β σ)) :
    let a := (begin t).run steps
    a.summarize? c = some (a.summarize c) ∧
      ∃ r, Record.read registry (a.summarize c).toDatum = .ok r ∧
        r.toSummary = a.summarize c := by
  intro a
  have hcoherent : a.Coherent := coherent_run t steps
  have htemplate : a.template = t := template_run (begin t) steps
  refine ⟨summarize?_eq_some c hcoherent, ?_⟩
  have hwell := wellFormed_summarize c hcoherent (htemplate ▸ ht)
  have hread : registry.rebuild (a.summarize c).template = .ok info := by
    show registry.rebuild a.template.describe = _
    rw [htemplate, hrebuild]
  refine ⟨_, Record.read_toDatum hwell hread, ?_⟩
  show Summary.mk info.describe _ _ _ _ = Summary.mk a.template.describe _ _ _ _
  rw [hinfo, htemplate]
  rfl

/-- The state after two twin styles of an unbound block, a style of a name that is bound again, a
mark that comes too early, and an element that stays open. -/
theorem summary_loads_back_twins :
    let c : Catalog Nat Nat :=
      ⟨fun b => "block" ++ toString b, [], fun x => x / 10, fun _ => ".a"⟩
    let t : TemplateInfo := ⟨.base, .str "page", []⟩
    let steps : List (WalkStep Nat Nat) :=
      [.bind "one" 1, .start, .mark 10, .add 10, .add 0, .add 1, .mark 0, .finish, .bind "one" 2,
        .add 20]
    let a := (begin t).run steps
    (∃ info, Registry.initial.rebuild t.describe = .ok info ∧ info.describe = t.describe) ∧
      a.summarize? c = some (a.summarize c) ∧
      ∃ r, Record.read Registry.initial (a.summarize c).toDatum = .ok r ∧
        r.toSummary = a.summarize c :=
  ⟨⟨⟨.base, .str "page", []⟩, rfl, rfl⟩, summary_loads_back _ rfl rfl rfl _⟩

end Analysis

end StyleUsage
