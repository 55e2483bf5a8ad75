/-!
# Entries in order of first insertion

A table is a list of pairs of a key and a value. Writing a key that is there already keeps its
place and takes the new value; a new key goes to the end. So no key occurs twice in a table that
was built by writing.
-/

namespace StyleUsage

/-- Pairs of a key and a value, in order of first insertion of the keys. -/
abbrev Entries (κ α : Type) := List (κ × α)

namespace Entries

variable {κ α β : Type} [DecidableEq κ]

/-- Write a value under a key. -/
def put : Entries κ α → κ → α → Entries κ α
  | [], k, v => [(k, v)]
  | (k', v') :: rest, k, v => if k' = k then (k', v) :: rest else (k', v') :: put rest k v

/-- The value under a key. -/
def get? : Entries κ α → κ → Option α
  | [], _ => none
  | (k', v) :: rest, k => if k' = k then some v else get? rest k

def keys (t : Entries κ α) : List κ := t.map Prod.fst

def values (t : Entries κ α) : List α := t.map Prod.snd

/-- Whether a key is there. -/
def has (t : Entries κ α) (k : κ) : Bool := (t.get? k).isSome

/-- The table that results from writing pairs one after another. -/
def ofPairs (pairs : List (κ × α)) : Entries κ α :=
  pairs.foldl (fun t p => t.put p.1 p.2) []

/-- Apply a function to every value. -/
def mapValues (f : α → β) (t : Entries κ α) : Entries κ β :=
  t.map fun p => (p.1, f p.2)

@[simp] theorem get?_nil (k : κ) : get? ([] : Entries κ α) k = none := rfl

omit [DecidableEq κ] in
@[simp] theorem keys_nil : keys ([] : Entries κ α) = [] := rfl

theorem get?_eq_none {t : Entries κ α} {k : κ} (h : k ∉ t.keys) : t.get? k = none := by
  induction t with
  | nil => rfl
  | cons p t ih =>
    obtain ⟨a, b⟩ := p
    simp only [keys, List.map_cons, List.mem_cons, not_or] at h
    have hne : a ≠ k := fun e => h.1 e.symm
    rw [get?, if_neg hne]
    exact ih h.2

/-- Reading after writing: the written key has the new value, any other key what it had. -/
theorem get?_put (t : Entries κ α) (k k' : κ) (v : α) :
    (t.put k v).get? k' = if k = k' then some v else t.get? k' := by
  induction t with
  | nil => simp [put, get?]
  | cons p t ih =>
    obtain ⟨a, b⟩ := p
    by_cases h : a = k
    · subst h
      by_cases h' : a = k' <;> simp [put, get?, h']
    · by_cases h' : k = k'
      · subst h'
        simp [put, get?, h, ih]
      · simp [put, get?, h, ih, h']

theorem keys_put (t : Entries κ α) (k : κ) (v : α) :
    (t.put k v).keys = if k ∈ t.keys then t.keys else t.keys ++ [k] := by
  induction t with
  | nil => simp [put, keys]
  | cons p t ih =>
    obtain ⟨a, b⟩ := p
    by_cases h : a = k
    · simp [put, keys, h]
    · have h' : k ≠ a := fun e => h e.symm
      simp only [keys] at ih
      by_cases hk : k ∈ t.map Prod.fst
      · simp [put, keys, h, hk, ih]
      · simp [put, keys, h, h', hk, ih]

theorem nodup_keys_put {t : Entries κ α} (h : t.keys.Nodup) (k : κ) (v : α) :
    (t.put k v).keys.Nodup := by
  rw [keys_put]
  split
  · exact h
  · next hk =>
    rw [List.nodup_append]
    refine ⟨h, by simp, ?_⟩
    intro a ha b hb hab
    simp only [List.mem_singleton] at hb
    exact hk (hb ▸ hab ▸ ha)

end Entries

end StyleUsage
