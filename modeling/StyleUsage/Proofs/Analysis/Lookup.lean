import StyleUsage.Proofs.Analysis.Coherence
import StyleUsage.Proofs.Analysis.Places
import StyleUsage.Proofs.Collection.Traversal

/-!
# Summaries by lookups that may fail

A summary looks up the names of the dynamic styles and of the members of correlations among those of
the found styles, and then the places of these names. `summarize?` takes each of these lookups as
one that may fail. In a coherent analysis the styles that are looked up are found ones, so that no
lookup fails and the summary is the one of `summarize` (`summarize?_eq_some`).
-/

namespace StyleUsage.Analysis

variable {β σ : Type} [DecidableEq β] [DecidableEq σ] (c : Catalog β σ) (a : Analysis β σ)

/-- The place of the name of a style in a list of names, if the style was found and the name is in
the list. -/
def place? (sorted : List String) (x : σ) : Option Nat :=
  if x ∈ a.found then sorted.idxOf? (a.canonicalName c x) else none

/-- The places of the names of styles, sorted, if all of them can be looked up. -/
def places? (sorted : List String) (styles : OrderedSet σ) : Option (List Nat) := do
  let places ← styles.toList.mapM (a.place? c sorted)
  some places.mergeSort

/-- The summary of an analysis, if no lookup fails. -/
def summarize? : Option Summary := do
  let sorted := (a.namesOf c a.found).mergeSort
  let dynamicStyles ← a.places? c sorted a.dynamic
  let styleCorrelations ← (a.correlations.filter fun s => 1 < s.size).mapM (a.places? c sorted)
  some {
    template := a.template.describe
    blocks := Entries.mapValues c.source a.bindings
    stylesFound := sorted
    dynamicStyles
    styleCorrelations }

variable {a}

omit [DecidableEq σ] in
theorem canonicalName_congr {a' : Analysis β σ} (h : a.bindings = a'.bindings) :
    a.canonicalName c = a'.canonicalName c := by
  funext x
  unfold canonicalName blockName?
  rw [h]

omit [DecidableEq σ] in
theorem canonicalName_mem {x : σ} (hx : x ∈ a.found) :
    a.canonicalName c x ∈ (a.namesOf c a.found).mergeSort := by
  rw [List.mem_mergeSort]
  exact List.mem_map_of_mem hx

omit [DecidableEq σ] in
theorem namesOf_subset {styles : OrderedSet σ} (h : ∀ x ∈ styles, x ∈ a.found) :
    ∀ n ∈ a.namesOf c styles, n ∈ (a.namesOf c a.found).mergeSort := by
  intro n hn
  obtain ⟨x, hx, rfl⟩ := List.mem_map.1 hn
  exact canonicalName_mem c (h x hx)

theorem place?_eq_some {x : σ} (hx : x ∈ a.found) :
    a.place? c (a.namesOf c a.found).mergeSort x =
      some ((a.namesOf c a.found).mergeSort.idxOf (a.canonicalName c x)) := by
  unfold place?
  rw [if_pos hx]
  exact idxOf?_eq_some (canonicalName_mem c hx)

theorem places?_eq_some {styles : OrderedSet σ} (h : ∀ x ∈ styles, x ∈ a.found) :
    a.places? c (a.namesOf c a.found).mergeSort styles =
      some (placesIn (a.namesOf c a.found).mergeSort (a.namesOf c styles)) := by
  unfold places?
  rw [mapM_eq_pure (m := Option) fun x hx => place?_eq_some c (h x hx)]
  unfold placesIn namesOf
  rw [List.map_map]
  rfl

/-- No lookup for the summary of a coherent analysis fails. -/
theorem summarize?_eq_some (h : a.Coherent) : a.summarize? c = some (a.summarize c) := by
  have hcorrelations : (a.correlations.filter fun s => 1 < s.size).mapM
      (a.places? c (a.namesOf c a.found).mergeSort) =
        some ((a.correlations.filter fun s => 1 < s.size).map fun s =>
          placesIn (a.namesOf c a.found).mergeSort (a.namesOf c s)) :=
    mapM_eq_pure fun s hs => places?_eq_some c (h.correlation_found s (List.mem_of_mem_filter hs))
  unfold summarize?
  dsimp only
  rw [places?_eq_some c h.dynamic_found, hcorrelations]
  rfl

end StyleUsage.Analysis
