import StyleUsage.Collection.OrderedSet
import Mathlib.Data.List.Induction
import Mathlib.Data.List.Nodup
import Mathlib.Data.List.Perm.Subperm

/-!
# What sets list

A set that is built from a list of items lists every item once, in the order of first occurrence
(`toList_ofList`). As the members are never repeated, a set is known up to order by its members
(`perm_of_mem_iff`).
-/

namespace StyleUsage

variable {α : Type} [DecidableEq α]

theorem eraseDups_concat (xs : List α) (x : α) :
    (xs ++ [x]).eraseDups = if x ∈ xs then xs.eraseDups else xs.eraseDups ++ [x] := by
  rw [List.eraseDups_append]
  by_cases h : x ∈ xs
  · rw [if_pos h, List.removeAll, List.filter_cons_of_neg (by simpa using h)]
    exact List.append_nil _
  · rw [if_neg h, List.removeAll, List.filter_cons_of_pos (by simpa using h)]
    rfl

theorem eraseDups_of_nodup {xs : List α} (h : xs.Nodup) : xs.eraseDups = xs := by
  induction xs using List.reverseRecOn with
  | nil => rfl
  | append_singleton xs x ih =>
    obtain ⟨hxs, -, hnot⟩ := List.nodup_append.1 h
    have hx : x ∉ xs := fun hmem => hnot x hmem x List.mem_cons_self rfl
    rw [eraseDups_concat, if_neg hx, ih hxs]

theorem eraseDups_ne_nil {xs : List α} (h : xs ≠ []) : xs.eraseDups ≠ [] := by
  obtain ⟨x, xs, rfl⟩ := List.exists_cons_of_ne_nil h
  rw [List.eraseDups_cons]
  exact List.cons_ne_nil _ _

namespace OrderedSet

theorem insertAll_append (s : OrderedSet α) (xs ys : List α) :
    s.insertAll (xs ++ ys) = (s.insertAll xs).insertAll ys := by
  unfold insertAll
  exact List.foldl_append

theorem ofList_concat (xs : List α) (x : α) : ofList (xs ++ [x]) = (ofList xs).insert x :=
  insertAll_append ∅ xs [x]

@[simp] theorem mem_ofList {xs : List α} {x : α} : x ∈ ofList xs ↔ x ∈ xs := by
  unfold ofList
  rw [mem_insertAll]
  simp [mem_def]

theorem toList_insert_of_eq {s : OrderedSet α} {xs : List α} (h : s.toList = xs.eraseDups) (x : α) :
    (s.insert x).toList = (xs ++ [x]).eraseDups := by
  have hmem : x ∈ s ↔ x ∈ xs := by rw [mem_def, h, List.mem_eraseDups]
  rw [toList_insert, eraseDups_concat, h]
  exact if_congr hmem rfl rfl

theorem toList_insertAll_of_eq {s : OrderedSet α} {xs : List α} (h : s.toList = xs.eraseDups)
    (ys : List α) : (s.insertAll ys).toList = (xs ++ ys).eraseDups := by
  induction ys using List.reverseRecOn with
  | nil => rw [insertAll_nil, List.append_nil, h]
  | append_singleton ys y ih =>
    rw [insertAll_append, insertAll_cons, insertAll_nil, toList_insert_of_eq ih, List.append_assoc]

theorem prefix_insert (s : OrderedSet α) (x : α) : s.toList <+: (s.insert x).toList := by
  rw [toList_insert]
  split
  · exact List.prefix_rfl
  · exact List.prefix_append s.toList [x]

/-- The set of the items of a list lists each item once, in order of first occurrence. -/
theorem toList_ofList (xs : List α) : (ofList xs).toList = xs.eraseDups := by
  induction xs using List.reverseRecOn with
  | nil => rfl
  | append_singleton xs x ih => rw [ofList_concat]; exact toList_insert_of_eq ih x

theorem ofList_toList (s : OrderedSet α) : ofList s.toList = s :=
  ext_toList ((toList_ofList s.toList).trans (eraseDups_of_nodup s.nodup))

/-- A union lists the members of its sets one set after another, each member once. -/
theorem toList_union (s : OrderedSet α) (others : List (OrderedSet α)) :
    (s.union others).toList = (s.toList ++ others.flatMap toList).eraseDups := by
  unfold union
  induction others using List.reverseRecOn with
  | nil => rw [List.foldl_nil, List.flatMap_nil, List.append_nil, toList_ofList]
  | append_singleton others o ih =>
    rw [List.foldl_append, List.foldl_cons, List.foldl_nil, toList_insertAll_of_eq ih,
      List.flatMap_append, List.flatMap_singleton, List.append_assoc]

omit [DecidableEq α] in
theorem perm_of_mem_iff {s t : OrderedSet α} (h : ∀ x, x ∈ s ↔ x ∈ t) :
    s.toList.Perm t.toList :=
  (List.perm_ext_iff_of_nodup s.nodup t.nodup).2 h

omit [DecidableEq α] in
theorem one_lt_size {s : OrderedSet α} {x y : α} (hx : x ∈ s) (hy : y ∈ s) (hne : x ≠ y) :
    1 < s.size := by
  have hnodup : [x, y].Nodup := by simpa using hne
  have hsub : [x, y] ⊆ s.toList := by
    simp only [List.cons_subset, List.nil_subset, and_true]
    exact ⟨hx, hy⟩
  exact (List.subperm_of_subset hnodup hsub).length_le

end OrderedSet

theorem nodup_eraseDups (xs : List α) : xs.eraseDups.Nodup := by
  rw [← OrderedSet.toList_ofList]
  exact OrderedSet.nodup _

theorem eraseDups_perm {xs ys : List α} (h : ∀ x, x ∈ xs ↔ x ∈ ys) :
    xs.eraseDups.Perm ys.eraseDups := by
  refine (List.perm_ext_iff_of_nodup (nodup_eraseDups xs) (nodup_eraseDups ys)).2 fun x => ?_
  rw [List.mem_eraseDups, List.mem_eraseDups, h]

end StyleUsage
