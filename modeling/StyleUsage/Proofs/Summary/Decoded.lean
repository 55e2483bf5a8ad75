import StyleUsage.Proofs.Analysis.Refinement
import StyleUsage.Proofs.Summary.Canonical

/-!
# What the places of a summary stand for

The name of a style depends on the bindings at the time of the summary, so it is a function of the
trace as a whole (`Trace.styleName`). A summary lists these names in order, and its places decode to
the names of the dynamic styles and of the members of correlations, each list sorted and nothing
lost (`summary_decodes`). Different styles may have one name; a place is then the first of the name.
-/

namespace StyleUsage

/-! ## Names by the trace -/

namespace Trace

variable {β σ : Type} [DecidableEq β] (t : Trace β σ)

/-- The local name of a block: the one bound first among those that were bound to the block last. -/
def localName? (block : β) : Option String :=
  ((bound t).map Prod.fst).eraseDups.find? fun name => decide (lastBound? t name = some block)

/-- The name of a style: the local name of its block, if there is one, and its source text. -/
def styleName (c : Catalog β σ) (x : σ) : String :=
  (t.localName? (c.owner x)).getD "" ++ c.fragment x

end Trace

namespace Analysis

variable {β σ : Type} [DecidableEq β] [DecidableEq σ] (template : TemplateInfo) (t : Trace β σ)
variable (c : Catalog β σ)

theorem blockName?_run (block : β) :
    ((begin template).run t).blockName? block = t.localName? block := by
  have hnodup := (coherent_run (σ := σ) template t).names_nodup
  unfold blockName? Trace.localName?
  rw [Entries.find?_value hnodup block, names_run]
  simp only [block_run]

theorem namesOf_run (styles : OrderedSet σ) :
    ((begin template).run t).namesOf c styles = styles.toList.map (t.styleName c) := by
  apply List.map_congr_left
  intro x _
  unfold canonicalName Trace.styleName
  rw [blockName?_run]

/-- **Places decode to names.** After whatever steps, failing ones passed over, every lookup for the
summary succeeds. The summary lists the names that the found styles have by the bindings at its
time, in order and with repetition, and every place in it is the first one of a name. The items at
the places of the dynamic styles are the names of the dynamic styles, in order and with repetition,
and there is an entry for each correlation of two styles or more and for no other, at whose places
are the names of its members. -/
theorem summary_decodes (template : TemplateInfo) (t : Trace β σ) (c : Catalog β σ) :
    let a := (begin template).run t
    let s := a.summarize c
    a.summarize? c = some s ∧
      s.stylesFound.Pairwise (· ≤ ·) ∧
      s.stylesFound.Perm (a.found.toList.map (t.styleName c)) ∧
      s.stylesFound.length = a.found.size ∧
      (∀ places ∈ s.dynamicStyles :: s.styleCorrelations, ∀ i ∈ places,
        ∃ n, s.stylesFound[i]? = some n ∧ s.stylesFound.idxOf n = i) ∧
      s.dynamicStyles.map (s.stylesFound[·]?) =
        (a.dynamic.toList.map (t.styleName c)).mergeSort.map some ∧
      s.styleCorrelations.map (fun places => places.map (s.stylesFound[·]?)) =
        (a.correlations.filter fun x => 1 < x.size).map fun x =>
          (x.toList.map (t.styleName c)).mergeSort.map some := by
  intro a s
  have h : a.Coherent := coherent_run template t
  have hsorted : s.stylesFound.Pairwise (· ≤ ·) := pairwise_mergeSort_le _
  have hfound : s.stylesFound.Perm (a.found.toList.map (t.styleName c)) := by
    rw [← namesOf_run template t c]
    exact List.mergeSort_perm _ _
  have hdynamic : ∀ n ∈ a.namesOf c a.dynamic, n ∈ s.stylesFound := namesOf_subset c h.dynamic_found
  have hcorrelation : ∀ names ∈ a.correlationNames c, ∀ n ∈ names, n ∈ s.stylesFound :=
    correlationNames_subset c h
  refine ⟨summarize?_eq_some c h, hsorted, hfound, ?_, ?_, ?_, ?_⟩
  · rw [hfound.length_eq, List.length_map]
    rfl
  · rw [styleCorrelations_summarize]
    intro places hplaces i hi
    rcases List.mem_cons.1 hplaces with rfl | hplaces
    · exact first_of_mem_placesIn hdynamic hi
    · obtain ⟨names, hnames, rfl⟩ := List.mem_map.1 hplaces
      exact first_of_mem_placesIn (hcorrelation names hnames) hi
  · rw [dynamicStyles_summarize, map_getElem?_placesIn hsorted hdynamic, namesOf_run]
  · have hdecoded : ((a.correlationNames c).map (placesIn s.stylesFound)).map
        (fun places => places.map (s.stylesFound[·]?)) =
          (a.correlationNames c).map fun names => names.mergeSort.map some := by
      rw [List.map_map]
      exact List.map_congr_left fun names hnames =>
        map_getElem?_placesIn hsorted (hcorrelation names hnames)
    rw [styleCorrelations_summarize, hdecoded]
    unfold correlationNames
    rw [List.map_map]
    apply List.map_congr_left
    intro x _
    show (a.namesOf c x).mergeSort.map some = _
    rw [namesOf_run]

end Analysis

end StyleUsage
