import StyleUsage.Proofs.Collection.Related

/-!
# Going over a list in a monad

When every item of a list succeeds on its own, so does going over the list (`mapM_eq_pure`); items
that are read back one by one are read back together (`mapM_map_eq_pure`). Going over a list gives
what its items give one by one (`mapM_eq_ok_iff`). Two ways of going over one list have the same
outcome if they have at every item (`SameOutcome.foldlM`).
-/

namespace StyleUsage

variable {m : Type → Type} [Monad m] [LawfulMonad m] {α γ : Type}

theorem mapM_eq_pure {g : α → m γ} {k : α → γ} :
    ∀ {xs : List α}, (∀ x ∈ xs, g x = pure (k x)) → xs.mapM g = pure (xs.map k)
  | [], _ => List.mapM_nil
  | x :: xs, h => by
    rw [List.mapM_cons, h x List.mem_cons_self,
      mapM_eq_pure fun y hy => h y (List.mem_cons_of_mem x hy), pure_bind, pure_bind]
    rfl

theorem mapM_map_eq_pure {f : α → γ} {g : γ → m α} {xs : List α} (h : ∀ x ∈ xs, g (f x) = pure x) :
    (xs.map f).mapM g = pure xs := by
  have hid := mapM_eq_pure (g := g ∘ f) (k := id) h
  rw [List.map_id] at hid
  rw [List.mapM_map]
  exact hid

theorem mapM_eq_none {g : α → Option γ} {x : α} (hx : g x = none) :
    ∀ {xs : List α}, x ∈ xs → xs.mapM g = none
  | y :: xs, h => by
    rw [List.mapM_cons]
    rcases List.mem_cons.1 h with rfl | h
    · rw [hx]
      rfl
    · rw [mapM_eq_none hx h]
      cases g y <;> rfl

/-- Items that are read only from what they are written as are read together from that alone. -/
theorem mapM_eq_some_iff {f : γ → α} {g : α → Option γ} (h : ∀ x y, g x = some y ↔ x = f y)
    {xs : List α} {ys : List γ} : xs.mapM g = some ys ↔ xs = ys.map f := by
  constructor
  · intro hread
    induction xs generalizing ys with
    | nil => cases hread; rfl
    | cons x xs ih =>
      rw [List.mapM_cons] at hread
      obtain ⟨y, hy, hread⟩ := Option.bind_eq_some_iff.1 hread
      obtain ⟨rest, hrest, hread⟩ := Option.bind_eq_some_iff.1 hread
      cases hread
      rw [(h x y).1 hy, ih hrest]
      rfl
  · rintro rfl
    exact mapM_map_eq_pure fun y _ => (h _ y).2 rfl

theorem mapM_eq_some_of_map {g : α → Option γ} {xs : List α} {ys : List γ}
    (h : xs.map g = ys.map some) : xs.mapM g = some ys := by
  have hid : (xs.map g).mapM id = xs.mapM g := List.mapM_map
  rw [← hid, h]
  exact mapM_map_eq_pure (m := Option) fun _ _ => rfl

omit [LawfulMonad m] in
theorem foldlM_congr {ι : Type} {f g : γ → ι → m γ} :
    ∀ {items : List ι} {a : γ}, (∀ a, ∀ i ∈ items, f a i = g a i) →
      items.foldlM f a = items.foldlM g a
  | [], _, _ => rfl
  | i :: items, a, h => by
    rw [List.foldlM_cons, List.foldlM_cons, h a i List.mem_cons_self]
    exact bind_congr fun a' => foldlM_congr fun a j hj => h a j (List.mem_cons_of_mem i hj)

section Success

variable {ε : Type} {f : α → Except ε γ} {xs : List α} {ys : List γ}

theorem bind_eq_ok_iff {x : Except ε α} {k : α → Except ε γ} {z : γ} :
    x >>= k = .ok z ↔ ∃ y, x = .ok y ∧ k y = .ok z := by
  cases x with
  | error e => simp [bind, Except.bind]
  | ok y => simp [bind, Except.bind]

theorem bind_eq_error_iff {x : Except ε α} {k : α → Except ε γ} {e : ε} :
    x >>= k = .error e ↔ x = .error e ∨ ∃ y, x = .ok y ∧ k y = .error e := by
  cases x with
  | error e => simp [bind, Except.bind]
  | ok y => simp [bind, Except.bind]

/-- What is made of two results comes about exactly if both of them do. -/
theorem exists_bind_bind_iff {β : Type} {x : Except ε α} {y : Except ε β} {f : α → β → γ} :
    (∃ z, (do let a ← x; let b ← y; .ok (f a b)) = Except.ok z) ↔
      (∃ a, x = .ok a) ∧ ∃ b, y = .ok b := by
  cases x with
  | error e => simp [bind, Except.bind]
  | ok a => cases y <;> simp [bind, Except.bind]

theorem exists_bind_iff {x : Except ε α} {f : α → γ} :
    (∃ z, (do let a ← x; .ok (f a)) = Except.ok z) ↔ ∃ a, x = .ok a := by
  cases x <;> simp [bind, Except.bind]

theorem map_eq_ok_iff {x : Except ε α} {g : α → γ} {z : γ} :
    x.map g = .ok z ↔ ∃ y, x = .ok y ∧ g y = z := by
  cases x with
  | error e => simp [Except.map]
  | ok y => simp [Except.map]

theorem mapError_eq_ok_iff {ε' : Type} {x : Except ε α} {g : ε → ε'} {y : α} :
    x.mapError g = .ok y ↔ x = .ok y := by
  cases x with
  | error e => simp [Except.mapError]
  | ok y => simp [Except.mapError]

theorem mapError_eq_error_iff {ε' : Type} {x : Except ε α} {g : ε → ε'} {e' : ε'} :
    x.mapError g = .error e' ↔ ∃ e, x = .error e ∧ g e = e' := by
  cases x with
  | error e => simp [Except.mapError]
  | ok y => simp [Except.mapError]

theorem forM_eq_ok_iff {k : α → Except ε Unit} :
    xs.forM k = .ok () ↔ ∀ x ∈ xs, k x = .ok () := by
  induction xs with
  | nil => simp [pure, Except.pure]
  | cons x xs ih =>
    show (k x >>= fun _ => xs.forM k) = _ ↔ _
    rw [bind_eq_ok_iff, List.forall_mem_cons, ← ih]
    exact ⟨fun ⟨_, hx, h⟩ => ⟨hx, h⟩, fun ⟨hx, h⟩ => ⟨_, hx, h⟩⟩

theorem findSomeM?_cons_of_none {f : α → Except ε (Option γ)} {x : α} (h : f x = .ok none) :
    (x :: xs).findSomeM? f = xs.findSomeM? f := by
  rw [List.findSomeM?, h]
  rfl

theorem findSomeM?_cons_of_ne {f : α → Except ε (Option γ)} {x : α} (h : f x ≠ .ok none) :
    (x :: xs).findSomeM? f = f x := by
  rw [List.findSomeM?]
  match hx : f x with
  | .error e => rfl
  | .ok (some y) => rfl
  | .ok none => exact absurd hx h

theorem findSomeM?_eq_none_iff {f : α → Except ε (Option γ)} :
    xs.findSomeM? f = .ok none ↔ ∀ x ∈ xs, f x = .ok none := by
  induction xs with
  | nil => simp [pure, Except.pure]
  | cons x xs ih =>
    rw [List.forall_mem_cons, ← ih]
    by_cases hx : f x = .ok none
    · rw [findSomeM?_cons_of_none hx, and_iff_right hx]
    · rw [findSomeM?_cons_of_ne hx]
      simp [hx]

/-- What going over a list gives is what its items give one by one. -/
theorem mapM_eq_ok_iff {f : α → Except ε γ} {xs : List α} {ys : List γ} :
    xs.mapM f = .ok ys ↔ List.Forall₂ (fun x y => f x = .ok y) xs ys := by
  induction xs generalizing ys with
  | nil =>
    constructor
    · intro h
      cases h
      exact .nil
    · intro h
      cases h
      exact List.mapM_nil
  | cons x xs ih =>
    rw [List.mapM_cons]
    constructor
    · intro h
      obtain ⟨y, hy, h⟩ := bind_eq_ok_iff.1 h
      obtain ⟨rest, hrest, h⟩ := bind_eq_ok_iff.1 h
      cases h
      exact .cons hy (ih.1 hrest)
    · intro h
      cases h with
      | cons hy hrest => exact bind_eq_ok_iff.2 ⟨_, hy, bind_eq_ok_iff.2 ⟨_, ih.2 hrest, rfl⟩⟩

theorem exists_mapM_ok_iff {f : α → Except ε γ} {xs : List α} :
    (∃ ys, xs.mapM f = .ok ys) ↔ ∀ x ∈ xs, ∃ y, f x = .ok y := by
  simp only [mapM_eq_ok_iff]
  constructor
  · rintro ⟨ys, h⟩ x hx
    obtain ⟨y, -, hy⟩ := exists_of_mem_left h hx
    exact ⟨y, hy⟩
  · exact exists_forall₂

theorem map_of_mapM {g : α → γ} (hg : ∀ x y, f x = .ok y → g x = y) (h : xs.mapM f = .ok ys) :
    xs.map g = ys :=
  (map_eq_of_forall₂ (mapM_eq_ok_iff.1 h) hg).trans (List.map_id ys)

theorem filterMap_of_mapM (h : xs.mapM f = .ok ys) :
    xs.filterMap (fun x => (f x).toOption) = ys := by
  rw [filterMap_eq_of_forall₂ (g := some) (mapM_eq_ok_iff.1 h) fun x y hx => by rw [hx]; rfl]
  exact List.filterMap_some

end Success

/-! ## Two computations side by side -/

/-- Two computations succeed with related results, or fail with the same cause, which the second one
tells in its own terms. -/
inductive SameOutcome {ε ε' α α' : Type} (tell : ε → ε') (R : α → α' → Prop) :
    Except ε α → Except ε' α' → Prop where
  | ok {x : α} {y : α'} (h : R x y) : SameOutcome tell R (.ok x) (.ok y)
  | error (e : ε) : SameOutcome tell R (.error e) (.error (tell e))

namespace SameOutcome

variable {ε ε' α α' γ γ' : Type} {tell : ε → ε'} {R : α → α' → Prop} {S : γ → γ' → Prop}
  {x : Except ε α} {y : Except ε' α'}

theorem bind {k : α → Except ε γ} {k' : α' → Except ε' γ'} (h : SameOutcome tell R x y)
    (hk : ∀ a a', R a a' → SameOutcome tell S (k a) (k' a')) :
    SameOutcome tell S (x >>= k) (y >>= k') := by
  cases h with
  | ok h => exact hk _ _ h
  | error e => exact .error e

theorem map {f : α → γ} {f' : α' → γ'} (h : SameOutcome tell R x y)
    (hf : ∀ a a', R a a' → S (f a) (f' a')) : SameOutcome tell S (x.map f) (y.map f') := by
  cases h with
  | ok h => exact .ok (hf _ _ h)
  | error e => exact .error e

/-- What holds at every item of a list holds of going over the list. -/
theorem foldlM {ι : Type} {f : α → ι → Except ε α} {g : α' → ι → Except ε' α'} :
    ∀ {items : List ι}, (∀ i ∈ items, ∀ a a', R a a' → SameOutcome tell R (f a i) (g a' i)) →
      ∀ {a a'}, R a a' → SameOutcome tell R (items.foldlM f a) (items.foldlM g a')
  | [], _, _, _, h => .ok h
  | i :: items, hitems, a, a', h => by
    rw [List.foldlM_cons, List.foldlM_cons]
    exact (hitems i List.mem_cons_self a a' h).bind fun _ _ h' =>
      foldlM (fun j hj => hitems j (List.mem_cons_of_mem i hj)) h'

theorem forM {ι : Type} {f : ι → Except ε Unit} {g : ι → Except ε' Unit} :
    ∀ {items : List ι}, (∀ i ∈ items, SameOutcome tell Eq (f i) (g i)) →
      SameOutcome tell Eq (items.forM f) (items.forM g)
  | [], _ => .ok rfl
  | i :: items, hitems => by
    show SameOutcome tell Eq (f i >>= fun _ => items.forM f) (g i >>= fun _ => items.forM g)
    exact (hitems i List.mem_cons_self).bind fun _ _ _ =>
      forM fun j hj => hitems j (List.mem_cons_of_mem i hj)

theorem refl (x : Except ε α) : SameOutcome id Eq x x := by
  cases x with
  | ok x => exact .ok rfl
  | error e => exact .error e

theorem mapError_left {f : ε → γ} {tell : γ → ε'} (h : SameOutcome (fun e => tell (f e)) R x y) :
    SameOutcome tell R (x.mapError f) y := by
  cases h with
  | ok h => exact .ok h
  | error e => exact .error (f e)

theorem mapError_right {y : Except ε α'} (h : SameOutcome id R x y) (f : ε → ε') :
    SameOutcome f R x (y.mapError f) := by
  cases h with
  | ok h => exact .ok h
  | error e => exact .error e

theorem eq_mapError {y : Except ε' α} (h : SameOutcome tell Eq x y) : y = x.mapError tell := by
  cases h with
  | ok h => exact congrArg Except.ok h.symm
  | error e => rfl

theorem error_iff (h : SameOutcome tell R x y) {e' : ε'} :
    y = .error e' ↔ ∃ e, x = .error e ∧ e' = tell e := by
  cases h with
  | ok h => simp
  | error e => simp [eq_comm]

theorem exists_ok_iff (h : SameOutcome tell R x y) : (∃ a', y = .ok a') ↔ ∃ a, x = .ok a := by
  cases h <;> simp

theorem exists_ok (h : SameOutcome tell R x y) {a' : α'} (hy : y = .ok a') :
    ∃ a, x = .ok a ∧ R a a' := by
  cases h with
  | ok h => cases hy; exact ⟨_, rfl, h⟩
  | error e => cases hy

end SameOutcome

end StyleUsage
