import StyleUsage.Collection.Entries
import StyleUsage.Proofs.Collection.OrderedSet
import Mathlib.Data.List.Find
import Mathlib.Data.List.Sort
import Mathlib.Data.String.Basic

/-!
# Tables without repeated keys

Writing pairs one after another leaves each key once, in the order of first writing, with the value
written last (`keys_ofPairs`, `get?_ofPairs`). A table without repeated keys is known up to order by
what it says under each key (`perm_iff_get?`), and brought into the order of its keys it is known
altogether (`sorted_eq_iff_perm`).
-/

namespace StyleUsage.Entries

section AnyKeys

variable {κ α : Type} [DecidableEq κ] {k : κ} {t : Entries κ α}

theorem put_of_not_mem (k : κ) (v : α) :
    ∀ {t : Entries κ α}, k ∉ keys t → put t k v = t ++ [(k, v)]
  | [], _ => rfl
  | (k', v') :: rest, h => by
    have hne : k' ≠ k := fun he => h (he ▸ List.mem_cons_self)
    have hrest : k ∉ keys rest := fun hk => h (List.mem_cons_of_mem k' hk)
    rw [put, if_neg hne, put_of_not_mem k v hrest, List.cons_append]

theorem mem_keys_iff : k ∈ keys t ↔ ∃ v, get? t k = some v := by
  induction t with
  | nil => simp
  | cons p t ih =>
    obtain ⟨k', v'⟩ := p
    show k ∈ k' :: keys t ↔ _
    rw [List.mem_cons, get?, ih]
    by_cases he : k' = k
    · simp [he]
    · simp [he, Ne.symm he]

theorem has_iff : has t k = true ↔ k ∈ keys t := by
  rw [mem_keys_iff]
  exact Option.isSome_iff_exists

theorem get?_filter_ne (t : Entries κ α) (k k' : κ) :
    get? (t.filter fun p => decide (p.1 ≠ k)) k' = if k' = k then none else get? t k' := by
  induction t with
  | nil => simp
  | cons p t ih =>
    obtain ⟨a, b⟩ := p
    by_cases ha : a = k
    · rw [List.filter_cons_of_neg (by simpa using ha), ih, get?, ha]
      by_cases h : k' = k
      · rw [if_pos h, if_pos h]
      · rw [if_neg h, if_neg h, if_neg (Ne.symm h)]
    · rw [List.filter_cons_of_pos (by simpa using ha), get?, get?, ih]
      by_cases h : a = k'
      · subst h
        simp [ha]
      · simp [h]

end AnyKeys

variable {α : Type} {k : String} {v : α} {t t' : Entries String α}

theorem not_mem_keys_of_nodup (h : (keys (t ++ (k, v) :: t')).Nodup) : k ∉ keys t := by
  unfold keys at h ⊢
  rw [List.map_append, List.map_cons, List.nodup_middle] at h
  exact fun hk => (List.nodup_cons.1 h).1 (List.mem_append_left _ hk)

theorem nodup_of_keys (h : (keys t).Nodup) : t.Nodup :=
  List.Nodup.of_map Prod.fst h

theorem nodup_keys_of_perm (h : (keys t).Nodup) (hp : t.Perm t') : (keys t').Nodup :=
  (hp.map Prod.fst).nodup_iff.1 h

theorem mem_keys_put {k' : String} : k' ∈ keys (put t k v) ↔ k' = k ∨ k' ∈ keys t := by
  rw [keys_put]
  split
  · next h => exact ⟨.inr, fun h' => h'.elim (fun he => he ▸ h) id⟩
  · rw [List.mem_append, List.mem_singleton, or_comm]

/-- What is in a table is what it says under the key. -/
theorem mem_iff_get? (h : (keys t).Nodup) : (k, v) ∈ t ↔ get? t k = some v := by
  induction t with
  | nil => simp [get?]
  | cons p t ih =>
    obtain ⟨k', v'⟩ := p
    obtain ⟨hk', ht⟩ := List.nodup_cons.1 h
    rw [List.mem_cons, get?, ih ht]
    by_cases he : k' = k
    · have hnone : get? t k = none := get?_eq_none (he ▸ hk')
      rw [if_pos he, hnone, Prod.mk.injEq]
      simp [he, eq_comm]
    · rw [if_neg he, Prod.mk.injEq]
      simp [Ne.symm he]

/-- The first entry with a value, found by looking up one key after another. -/
theorem find?_value {α : Type} [DecidableEq α] {t : Entries String α}
    (h : (keys t).Nodup) (v : α) :
    (t.find? fun p => decide (p.2 = v)).map Prod.fst =
      (keys t).find? fun k => decide (get? t k = some v) := by
  unfold keys
  rw [List.find?_map]
  congr 1
  apply List.find?_congr
  intro p hp
  have hget : get? t p.1 = some p.2 := (mem_iff_get? h).1 hp
  apply decide_eq_decide.2
  rw [hget, Option.some_inj]

/-- Tables that say the same under every key differ in order only. -/
theorem perm_iff_get? (h : (keys t).Nodup) (h' : (keys t').Nodup) :
    t.Perm t' ↔ ∀ k, get? t k = get? t' k := by
  rw [List.perm_ext_iff_of_nodup (nodup_of_keys h) (nodup_of_keys h')]
  constructor
  · intro hmem k
    apply Option.ext
    intro v
    rw [← mem_iff_get? h, ← mem_iff_get? h', hmem]
  · intro hget p
    obtain ⟨k, v⟩ := p
    rw [mem_iff_get? h, mem_iff_get? h', hget]

/-- A table of the same size that has every entry of another differs from it in order only. -/
theorem perm_iff_subset (h : (keys t).Nodup) :
    t.Perm t' ↔ t.length = t'.length ∧ ∀ p ∈ t, p ∈ t' := by
  constructor
  · intro hp
    exact ⟨hp.length_eq, fun p => hp.mem_iff.1⟩
  · rintro ⟨hlen, hmem⟩
    exact (List.subperm_of_subset (nodup_of_keys h) hmem).perm_of_length_le (Nat.le_of_eq hlen.symm)

theorem keys_mapValues {γ : Type} (f : α → γ) (t : Entries String α) :
    keys (mapValues f t) = keys t := by
  unfold keys mapValues
  rw [List.map_map]
  rfl

theorem get?_mapValues {γ : Type} (f : α → γ) (t : Entries String α) (k : String) :
    get? (mapValues f t) k = (get? t k).map f := by
  induction t with
  | nil => rfl
  | cons p t ih =>
    show (if p.1 = k then some (f p.2) else get? (mapValues f t) k) =
      (if p.1 = k then some p.2 else get? t k).map f
    rw [ih]
    by_cases h : p.1 = k
    · rw [if_pos h, if_pos h]
      rfl
    · rw [if_neg h, if_neg h]

theorem mapValues_mapValues {γ δ : Type} (g : γ → δ) (f : α → γ) (t : Entries String α) :
    mapValues g (mapValues f t) = mapValues (g ∘ f) t := by
  unfold mapValues
  rw [List.map_map]
  rfl

theorem mapValues_put {γ : Type} (f : α → γ) (t : Entries String α) (k : String) (v : α) :
    mapValues f (put t k v) = put (mapValues f t) k (f v) := by
  induction t with
  | nil => rfl
  | cons p t ih =>
    show mapValues f (if p.1 = k then (p.1, v) :: t else p :: put t k v) =
      if p.1 = k then (p.1, f v) :: mapValues f t else (p.1, f p.2) :: put (mapValues f t) k (f v)
    by_cases h : p.1 = k
    · rw [if_pos h, if_pos h]
      rfl
    · rw [if_neg h, if_neg h, ← ih]
      rfl

theorem keys_append_cons (t t' : Entries String α) (k : String) (v : α) :
    keys (t ++ (k, v) :: t') = keys t ++ k :: keys t' := by
  unfold keys
  rw [List.map_append, List.map_cons]

theorem put_middle (h : k ∉ keys t) (v v' : α) :
    put (t ++ (k, v) :: t') k v' = t ++ (k, v') :: t' := by
  induction t with
  | nil => exact if_pos rfl
  | cons p t ih =>
    obtain ⟨hp, ht⟩ := not_or.1 (List.mem_cons.not.1 h)
    rw [List.cons_append, put, if_neg (Ne.symm hp), ih ht, List.cons_append]

theorem get?_middle (h : k ∉ keys t) (v : α) : get? (t ++ (k, v) :: t') k = some v := by
  induction t with
  | nil => exact if_pos rfl
  | cons p t ih =>
    obtain ⟨hp, ht⟩ := not_or.1 (List.mem_cons.not.1 h)
    rw [List.cons_append, get?, if_neg (Ne.symm hp), ih ht]

theorem ofPairs_concat (pairs : List (String × α)) (p : String × α) :
    ofPairs (pairs ++ [p]) = put (ofPairs pairs) p.1 p.2 := by
  unfold ofPairs
  rw [List.foldl_append]
  rfl

theorem ofPairs_eq_self (h : (keys t).Nodup) : ofPairs t = t := by
  induction t using List.reverseRecOn with
  | nil => rfl
  | append_singleton t p ih =>
    have hkey : p.1 ∉ keys t := not_mem_keys_of_nodup h
    have ht : (keys t).Nodup := by
      unfold keys at h ⊢
      rw [List.map_append] at h
      exact (List.nodup_append.1 h).1
    rw [ofPairs_concat, ih ht, put_of_not_mem p.1 p.2 hkey]

theorem mem_put {p : String × α} : ∀ {t : Entries String α}, p ∈ put t k v → p ∈ t ∨ p = (k, v)
  | [], h => .inr (List.mem_singleton.1 h)
  | (k', v') :: rest, h => by
    unfold put at h
    by_cases hk : k' = k
    · rw [if_pos hk] at h
      rcases List.mem_cons.1 h with rfl | h
      · exact .inr (Prod.ext hk rfl)
      · exact .inl (List.mem_cons_of_mem _ h)
    · rw [if_neg hk] at h
      rcases List.mem_cons.1 h with rfl | h
      · exact .inl List.mem_cons_self
      · exact (mem_put h).imp_left (List.mem_cons_of_mem _)

theorem mem_of_mem_ofPairs {pairs : List (String × α)} {p : String × α} (h : p ∈ ofPairs pairs) :
    p ∈ pairs := by
  induction pairs using List.reverseRecOn with
  | nil => cases h
  | append_singleton pairs q ih =>
    rw [ofPairs_concat] at h
    rcases mem_put h with h | rfl
    · exact List.mem_append_left _ (ih h)
    · exact List.mem_append_right _ List.mem_cons_self

/-- Every key that is written is there once, in the order of first writing. -/
theorem keys_ofPairs (pairs : List (String × α)) :
    keys (ofPairs pairs) = (pairs.map Prod.fst).eraseDups := by
  induction pairs using List.reverseRecOn with
  | nil => rfl
  | append_singleton pairs p ih =>
    rw [ofPairs_concat, keys_put, ih, List.map_append]
    show _ = (pairs.map Prod.fst ++ [p.1]).eraseDups
    rw [eraseDups_concat]
    exact if_congr List.mem_eraseDups rfl rfl

theorem get?_ofPairs (pairs : List (String × α)) (k : String) :
    get? (ofPairs pairs) k = pairs.reverse.lookup k := by
  induction pairs using List.reverseRecOn with
  | nil => rfl
  | append_singleton pairs p ih =>
    rw [ofPairs_concat, get?_put, ih, List.reverse_concat, List.lookup_cons]
    by_cases h : p.1 = k
    · rw [if_pos h, h, beq_self_eq_true]
    · rw [if_neg h, beq_eq_false_iff_ne.2 (Ne.symm h)]

abbrev keyLE (p q : String × α) : Bool := decide (p.1 ≤ q.1)

theorem pairwise_sorted (t : Entries String α) :
    (t.mergeSort keyLE).Pairwise fun p q => keyLE p q = true := by
  apply List.pairwise_mergeSort
  · intro p q r hpq hqr
    exact decide_eq_true (le_trans (of_decide_eq_true hpq) (of_decide_eq_true hqr))
  · intro p q
    rcases le_total p.1 q.1 with h | h <;> simp [keyLE, h]

/-- Only the keys count for the order of entries. -/
theorem mergeSort_mapValues {γ : Type} (f : α → γ) (t : Entries String α) :
    (mapValues f t).mergeSort keyLE = mapValues f (t.mergeSort keyLE) :=
  (List.map_mergeSort (r := keyLE) (s := keyLE) (f := fun p : String × α => (p.1, f p.2))
    fun _ _ _ _ => rfl).symm

/-- Tables that are the same when brought into the order of keys differ in order only. -/
theorem sorted_eq_iff_perm (h : (keys t).Nodup) :
    t.mergeSort keyLE = t'.mergeSort keyLE ↔ t.Perm t' := by
  constructor
  · intro heq
    exact (List.mergeSort_perm t keyLE).symm.trans (heq ▸ List.mergeSort_perm t' keyLE)
  · intro hp
    have hsorted : (t.mergeSort keyLE).Perm (t'.mergeSort keyLE) :=
      (List.mergeSort_perm t keyLE).trans (hp.trans (List.mergeSort_perm t' keyLE).symm)
    refine hsorted.eq_of_pairwise ?_ (pairwise_sorted t) (pairwise_sorted t')
    intro p q hmem hmem' hpq hqp
    have hkey : p.1 = q.1 := le_antisymm (of_decide_eq_true hpq) (of_decide_eq_true hqp)
    have hp₁ : p ∈ t := (List.mergeSort_perm t keyLE).mem_iff.1 hmem
    have hq₁ : q ∈ t := hp.mem_iff.2 ((List.mergeSort_perm t' keyLE).mem_iff.1 hmem')
    exact List.inj_on_of_nodup_map h hp₁ hq₁ hkey

end StyleUsage.Entries
