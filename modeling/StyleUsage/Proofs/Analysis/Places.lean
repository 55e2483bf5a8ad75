import StyleUsage.Analysis.Summary
import Mathlib.Data.List.Sort
import Mathlib.Data.String.Basic

/-!
# Places in a sorted list of names

A summary refers to a name by its first place in the sorted list of all names. Nothing is lost by
that: the places of names that are all in the list are sorted, are places of the list and lead back
to the names in order (`map_getElem?_placesIn`), so two lists of names with the same places differ
in order only (`placesIn_eq_iff`).
-/

namespace StyleUsage

/-! ## Sorted lists -/

section Sorted

variable {α : Type} [LinearOrder α]

theorem pairwise_mergeSort_le (xs : List α) : (xs.mergeSort).Pairwise (· ≤ ·) :=
  List.pairwise_mergeSort' (· ≤ ·) xs

/-- Two lists that are sorted alike differ in order only. -/
theorem mergeSort_eq_iff_perm {xs ys : List α} : xs.mergeSort = ys.mergeSort ↔ xs.Perm ys := by
  constructor
  · intro h
    have hx := List.mergeSort_perm xs (fun a b => decide (a ≤ b))
    have hy := List.mergeSort_perm ys (fun a b => decide (a ≤ b))
    exact hx.symm.trans (h ▸ hy)
  · intro h
    apply List.Perm.eq_of_pairwise' (pairwise_mergeSort_le xs) (pairwise_mergeSort_le ys)
    exact (List.mergeSort_perm xs _).trans (h.trans (List.mergeSort_perm ys _).symm)

/-- A sorted list is what any list of its items is sorted to. -/
theorem mergeSort_eq_of_perm {xs ys : List α} (h : xs.Perm ys) (hsorted : ys.Pairwise (· ≤ ·)) :
    xs.mergeSort = ys := by
  rw [mergeSort_eq_iff_perm.2 h]
  exact List.mergeSort_of_pairwise (hsorted.imp fun hle => decide_eq_true hle)

/-- Sorting a list without repetition leaves each item less than the next. -/
theorem pairwise_lt_mergeSort {xs : List α} (h : xs.Nodup) : (xs.mergeSort).Pairwise (· < ·) := by
  have hnodup : (xs.mergeSort).Nodup := (List.mergeSort_perm xs _).nodup_iff.2 h
  exact (pairwise_mergeSort_le xs).imp₂ (fun _ _ hle hne => lt_of_le_of_ne hle hne) hnodup

end Sorted

namespace Analysis

variable {sorted names names' : List String}

theorem placesIn_perm (sorted names : List String) :
    (placesIn sorted names).Perm (names.map fun n => sorted.idxOf n) :=
  List.mergeSort_perm _ _

theorem pairwise_placesIn (sorted names : List String) :
    (placesIn sorted names).Pairwise (· ≤ ·) :=
  pairwise_mergeSort_le _

theorem pairwise_lt_placesIn (hmem : ∀ n ∈ names, n ∈ sorted) (h : names.Nodup) :
    (placesIn sorted names).Pairwise (· < ·) := by
  apply pairwise_lt_mergeSort
  exact h.map_on fun m hm _ _ hplace => (List.idxOf_inj (hmem m hm)).1 hplace

@[simp] theorem length_placesIn (sorted names : List String) :
    (placesIn sorted names).length = names.length := by
  unfold placesIn
  rw [List.length_mergeSort, List.length_map]

/-- A place of a name is the place of an item. -/
theorem lt_of_mem_placesIn (h : ∀ n ∈ names, n ∈ sorted) {i : Nat}
    (hi : i ∈ placesIn sorted names) : i < sorted.length := by
  obtain ⟨n, hn, rfl⟩ := List.mem_map.1 ((placesIn_perm sorted names).mem_iff.1 hi)
  exact List.idxOf_lt_length_of_mem (h n hn)

theorem idxOf?_eq_some {α : Type} [BEq α] [LawfulBEq α] {xs : List α} {x : α} (h : x ∈ xs) :
    xs.idxOf? x = some (xs.idxOf x) := by
  obtain ⟨i, hi⟩ := Option.isSome_iff_exists.1 (List.isSome_idxOf?.2 h)
  rw [List.idxOf_eq_getD_idxOf?, hi]
  rfl

theorem getD_idxOf {n : String} (h : n ∈ sorted) : sorted[sorted.idxOf n]?.getD "" = n := by
  rw [List.getElem?_idxOf h]
  rfl

theorem map_getElem_placesIn (h : ∀ n ∈ names, n ∈ sorted) :
    ((placesIn sorted names).map fun i => sorted[i]?.getD "").Perm names := by
  have hp := (placesIn_perm sorted names).map fun i => sorted[i]?.getD ""
  rw [List.map_map] at hp
  have hid : names.map ((fun i => sorted[i]?.getD "") ∘ fun n => sorted.idxOf n) = names := by
    conv_rhs => rw [← List.map_id names]
    exact List.map_congr_left fun n hn => getD_idxOf (h n hn)
  rwa [hid] at hp

/-- A place is the first one of the name that is there. -/
theorem first_of_mem_placesIn (h : ∀ n ∈ names, n ∈ sorted) {i : Nat}
    (hi : i ∈ placesIn sorted names) : ∃ n, sorted[i]? = some n ∧ sorted.idxOf n = i := by
  obtain ⟨n, hn, rfl⟩ := List.mem_map.1 ((placesIn_perm sorted names).mem_iff.1 hi)
  exact ⟨n, List.getElem?_idxOf (h n hn), rfl⟩

theorem getD_le_getD (hsorted : sorted.Pairwise (· ≤ ·)) {i j : Nat} (hij : i ≤ j)
    (hj : j < sorted.length) : sorted[i]?.getD "" ≤ sorted[j]?.getD "" := by
  have hi : i < sorted.length := by omega
  rw [List.getElem?_eq_getElem hi, List.getElem?_eq_getElem hj]
  rcases Nat.lt_or_eq_of_le hij with hlt | rfl
  · exact List.pairwise_iff_getElem.1 hsorted i j hi hj hlt
  · exact le_refl _

/-- In a sorted list the items at the places of names are the names in order. -/
theorem map_getElem?_placesIn (hsorted : sorted.Pairwise (· ≤ ·)) (h : ∀ n ∈ names, n ∈ sorted) :
    (placesIn sorted names).map (sorted[·]?) = names.mergeSort.map some := by
  have hlt : ∀ i ∈ placesIn sorted names, i < sorted.length := fun _ => lt_of_mem_placesIn h
  have hdecoded : ((placesIn sorted names).map fun i => sorted[i]?.getD "") = names.mergeSort := by
    apply List.Perm.eq_of_pairwise' (r := (· ≤ ·)) _ (pairwise_mergeSort_le names)
    · exact (map_getElem_placesIn h).trans (List.mergeSort_perm names _).symm
    · rw [List.pairwise_map]
      apply (pairwise_placesIn sorted names).imp_of_mem
      intro i j _ hj hij
      exact getD_le_getD hsorted hij (hlt j hj)
  rw [← hdecoded, List.map_map]
  apply List.map_congr_left
  intro i hi
  show sorted[i]? = some (sorted[i]?.getD "")
  rw [List.getElem?_eq_getElem (hlt i hi)]
  rfl

/-- Names have the same places exactly if they are the same up to order. -/
theorem placesIn_eq_iff (h : ∀ n ∈ names, n ∈ sorted) (h' : ∀ n ∈ names', n ∈ sorted) :
    placesIn sorted names = placesIn sorted names' ↔ names.Perm names' := by
  constructor
  · intro heq
    have hp := map_getElem_placesIn h
    rw [heq] at hp
    exact hp.symm.trans (map_getElem_placesIn h')
  · intro hp
    exact mergeSort_eq_iff_perm.2 (hp.map _)

/-- Several lists of names have the same places exactly if they are the same one by one, each up to
order. -/
theorem map_placesIn_eq_iff : ∀ {xs ys : List (List String)},
    (∀ names ∈ xs, ∀ n ∈ names, n ∈ sorted) → (∀ names ∈ ys, ∀ n ∈ names, n ∈ sorted) →
    (xs.map (placesIn sorted) = ys.map (placesIn sorted) ↔ List.Forall₂ List.Perm xs ys)
  | [], [], _, _ => by simp
  | [], _ :: _, _, _ => by simp
  | _ :: _, [], _, _ => by simp
  | x :: xs, y :: ys, hx, hy => by
    have hhead := placesIn_eq_iff (hx x List.mem_cons_self) (hy y List.mem_cons_self)
    have htail := map_placesIn_eq_iff (fun names h => hx names (List.mem_cons_of_mem x h))
      (fun names h => hy names (List.mem_cons_of_mem y h))
    rw [List.map_cons, List.map_cons, List.cons.injEq, hhead, htail, List.forall₂_cons]

end Analysis

end StyleUsage
