import Mathlib.Data.List.Forall2
import Mathlib.Data.List.Perm.Basic

/-!
# Lists that are related item by item

What a relation says of the items of two lists, it says of what is taken from the lists: of their
members (`exists_iff_of_forall₂`), of the items that are kept (`filterMap_eq_of_forall₂`) and of
lists on one side that go with lists on the other (`exists_forall₂`, `forall₂_square`,
`forall₂_along`).
-/

namespace StyleUsage

variable {α β α' β' γ : Type} {R : α → β → Prop} {xs : List α} {ys : List β}

theorem exists_forall₂ (h : ∀ x ∈ xs, ∃ y, R x y) : ∃ ys, List.Forall₂ R xs ys := by
  induction xs with
  | nil => exact ⟨[], .nil⟩
  | cons x xs ih =>
    obtain ⟨y, hy⟩ := h x List.mem_cons_self
    obtain ⟨ys, hys⟩ := ih fun x' hx' => h x' (List.mem_cons_of_mem x hx')
    exact ⟨y :: ys, .cons hy hys⟩

theorem exists_of_mem_left (h : List.Forall₂ R xs ys) {x : α} (hx : x ∈ xs) : ∃ y ∈ ys, R x y := by
  induction h with
  | nil => cases hx
  | @cons x' y' xs ys hxy _ ih =>
    rcases List.mem_cons.1 hx with rfl | hx
    · exact ⟨y', List.mem_cons_self, hxy⟩
    · obtain ⟨y, hy, hrel⟩ := ih hx
      exact ⟨y, List.mem_cons_of_mem y' hy, hrel⟩

theorem exists_of_mem_right (h : List.Forall₂ R xs ys) {y : β} (hy : y ∈ ys) :
    ∃ x ∈ xs, R x y :=
  exists_of_mem_left (R := flip R) h.flip hy

theorem exists_getElem?_of_forall₂ (h : List.Forall₂ R xs ys) {n : Nat} {x : α}
    (hx : xs[n]? = some x) : ∃ y, ys[n]? = some y ∧ R x y := by
  induction h generalizing n with
  | nil => cases hx
  | cons hxy _ ih =>
    cases n with
    | zero =>
      cases hx
      exact ⟨_, rfl, hxy⟩
    | succ n => exact ih hx

theorem exists_iff_of_forall₂ {P : α → Prop} {Q : β → Prop} (h : List.Forall₂ R xs ys)
    (hPQ : ∀ x y, R x y → (P x ↔ Q y)) : (∃ x ∈ xs, P x) ↔ ∃ y ∈ ys, Q y := by
  constructor
  · rintro ⟨x, hx, hP⟩
    obtain ⟨y, hy, hrel⟩ := exists_of_mem_left h hx
    exact ⟨y, hy, (hPQ x y hrel).1 hP⟩
  · rintro ⟨y, hy, hQ⟩
    obtain ⟨x, hx, hrel⟩ := exists_of_mem_right h hy
    exact ⟨x, hx, (hPQ x y hrel).2 hQ⟩

theorem filterMap_eq_of_forall₂ {f : α → Option γ} {g : β → Option γ} (h : List.Forall₂ R xs ys)
    (hfg : ∀ x y, R x y → f x = g y) : xs.filterMap f = ys.filterMap g := by
  induction h with
  | nil => rfl
  | cons hxy _ ih => rw [List.filterMap_cons, List.filterMap_cons, hfg _ _ hxy, ih]

theorem map_eq_of_forall₂ {f : α → γ} {g : β → γ} (h : List.Forall₂ R xs ys)
    (hfg : ∀ x y, R x y → f x = g y) : xs.map f = ys.map g := by
  rw [← List.filterMap_eq_map, ← List.filterMap_eq_map]
  exact filterMap_eq_of_forall₂ h fun x y hxy => congrArg some (hfg x y hxy)

/-- Lists that are made of lists item by item are related as these lists are. -/
theorem forall₂_mapIdx_iff {S : α → α → Prop} {R : β → β → Prop} {f : Nat → α → β}
    (h : ∀ n x y, R (f n x) y ↔ ∃ x', S x x' ∧ f n x' = y) :
    List.Forall₂ R (xs.mapIdx f) ys ↔ ∃ xs', List.Forall₂ S xs xs' ∧ xs'.mapIdx f = ys := by
  induction xs generalizing f ys with
  | nil =>
    constructor
    · intro hys
      cases hys
      exact ⟨[], .nil, rfl⟩
    · rintro ⟨xs', hxs', rfl⟩
      cases hxs'
      exact .nil
  | cons x xs ih =>
    have ih (ys : List β) := @ih ys _ fun n => h (n + 1)
    rw [List.mapIdx_cons]
    constructor
    · intro hys
      cases hys with
      | cons hy hys =>
        obtain ⟨x', hx', rfl⟩ := (h 0 x _).1 hy
        obtain ⟨xs', hxs', rfl⟩ := (ih _).1 hys
        exact ⟨x' :: xs', .cons hx' hxs', List.mapIdx_cons⟩
    · rintro ⟨xs', hxs', rfl⟩
      cases hxs' with
      | cons hx' hxs' =>
        rw [List.mapIdx_cons]
        exact .cons ((h 0 x _).2 ⟨_, hx', rfl⟩) ((ih _).2 ⟨_, hxs', rfl⟩)

theorem forall₂_map_iff {S : α → α → Prop} {R : β → β → Prop} {f : α → β}
    (h : ∀ x y, R (f x) y ↔ ∃ x', S x x' ∧ f x' = y) :
    List.Forall₂ R (xs.map f) ys ↔ ∃ xs', List.Forall₂ S xs xs' ∧ xs'.map f = ys := by
  have hmap (xs : List α) : xs.map f = xs.mapIdx fun _ => f := by
    induction xs with
    | nil => rfl
    | cons x xs ih => rw [List.map_cons, ih, List.mapIdx_cons]
  simp only [hmap]
  exact forall₂_mapIdx_iff fun _ => h

/-- If related items go with related items, then related lists go with related lists. -/
theorem forall₂_square {S : α → α' → Prop} {R' : α' → β' → Prop} {S' : β → β' → Prop}
    (hstep : ∀ x y x', R x y → S x x' → ∃ y', R' x' y' ∧ S' y y') {xs' : List α'}
    (hR : List.Forall₂ R xs ys) (hS : List.Forall₂ S xs xs') :
    ∃ ys', List.Forall₂ R' xs' ys' ∧ List.Forall₂ S' ys ys' := by
  induction hR generalizing xs' with
  | nil =>
    cases hS
    exact ⟨[], .nil, .nil⟩
  | cons hxy _ ih =>
    obtain ⟨x', xs', hx, hxs, rfl⟩ := List.forall₂_cons_left_iff.1 hS
    obtain ⟨y', hy', hS'⟩ := hstep _ _ _ hxy hx
    obtain ⟨ys', hys', hSs'⟩ := ih hxs
    exact ⟨y' :: ys', .cons hy' hys', .cons hS' hSs'⟩

/-- If an item that is related to another still is when a third takes its place, then so are lists
of such items. -/
theorem forall₂_along {S : α → α' → Prop} {R' : α' → β → Prop} {xs' : List α'}
    (hR : List.Forall₂ R xs ys) (hS : List.Forall₂ S xs xs')
    (hstep : ∀ x y x', R x y → S x x' → R' x' y) : List.Forall₂ R' xs' ys := by
  have hsquare : ∀ x y x', R x y → S x x' → ∃ y', R' x' y' ∧ y = y' :=
    fun x y x' hxy hxx' => ⟨y, hstep x y x' hxy hxx', rfl⟩
  obtain ⟨ys', hR', heq⟩ := forall₂_square hsquare hR hS
  rw [List.forall₂_eq_eq_eq] at heq
  exact heq ▸ hR'

/-! ## At most one item -/

section Option

variable {a? : Option α} {b? : Option β}

theorem exists_of_rel_left (h : Option.Rel R a? b?) {a : α} (ha : a? = some a) :
    ∃ b, b? = some b ∧ R a b := by
  cases h with
  | none => cases ha
  | some hab => cases ha; exact ⟨_, rfl, hab⟩

theorem exists_of_rel_right (h : Option.Rel R a? b?) {b : β} (hb : b? = some b) :
    ∃ a, a? = some a ∧ R a b := by
  cases h with
  | none => cases hb
  | some hab => cases hb; exact ⟨_, rfl, hab⟩

theorem rel_mono {S : α → β → Prop} (hRS : ∀ a b, R a b → S a b) (h : Option.Rel R a? b?) :
    Option.Rel S a? b? := by
  cases h with
  | none => exact .none
  | some hab => exact .some (hRS _ _ hab)

end Option

end StyleUsage
