import StyleUsage.Collection.SetMemory
import StyleUsage.Proofs.Collection.Entries
import Mathlib.Data.List.Basic

/-!
# The tables of sets

The invariant of a table is that it holds the members of an ordered set, each under its identity
(`Lists`). Every operation that changes or makes a set keeps it, and touches no table but that of
the one set (`Changes`); the lemmas `changes_insert`, `changes_insertAll`, `changes_clear`,
`changes_make`, `changes_freeze` and `changes_unite` say so of each of them.
-/

namespace StyleUsage

namespace SetMemory

variable {κ α : Type}

/-! ## Tables -/

section Tables

variable {ident : α → κ} {x : α}

def tableOf (ident : α → κ) (s : OrderedSet α) : Entries κ α := s.toList.map fun x => (ident x, x)

theorem values_tableOf (s : OrderedSet α) : (tableOf ident s).values = s.toList := by
  simp [tableOf, Entries.values, Function.comp_def]

theorem mem_keys_tableOf (hident : Function.Injective ident) {s : OrderedSet α} :
    ident x ∈ (tableOf ident s).keys ↔ x ∈ s := by
  have hkeys : (tableOf ident s).keys = s.toList.map ident := by
    simp [tableOf, Entries.keys, Function.comp_def]
  rw [hkeys, List.mem_map_of_injective hident, OrderedSet.mem_def]

variable [DecidableEq κ] [DecidableEq α]

theorem has_tableOf (hident : Function.Injective ident) {s : OrderedSet α} :
    (tableOf ident s).has (ident x) = decide (x ∈ s) := by
  rw [Bool.eq_iff_iff, Entries.has_iff, mem_keys_tableOf hident, decide_eq_true_iff]

theorem put_tableOf (hident : Function.Injective ident) {s : OrderedSet α} (hx : x ∉ s) :
    (tableOf ident s).put (ident x) x = tableOf ident (s.insert x) := by
  have hkey : ident x ∉ (tableOf ident s).keys := (mem_keys_tableOf hident).not.2 hx
  rw [Entries.put_of_not_mem _ _ hkey]
  unfold tableOf
  rw [OrderedSet.toList_insert, if_neg hx, List.map_append, List.map_singleton]

end Tables

/-! ## What a set lists -/

section Lists

variable {ident : α → κ} {m m' m'' : SetMemory κ α} {r r' : SetRef} {s s' : OrderedSet α}

/-- The table of a set holds the members of an ordered set. -/
def Lists (ident : α → κ) (m : SetMemory κ α) (r : SetRef) (s : OrderedSet α) : Prop :=
  m.tables[r.table]? = some (tableOf ident s)

theorem Lists.lt (h : Lists ident m r s) : r.table < m.tables.length :=
  (List.getElem?_eq_some_iff.1 h).1

theorem Lists.table_eq (h : Lists ident m r s) : m.table r = tableOf ident s := by
  unfold table
  rw [h]
  rfl

theorem Lists.items_eq (h : Lists ident m r s) : m.items r = s.toList := by
  unfold items
  rw [h.table_eq, values_tableOf]

theorem items_congr (h : m'.tables[r.table]? = m.tables[r.table]?) : m'.items r = m.items r := by
  unfold items table
  rw [h]

/-- After an operation the table of one set holds the members of an ordered set, and every other
table is as it was. -/
structure Changes (ident : α → κ) (m m' : SetMemory κ α) (r : SetRef) (s : OrderedSet α) :
    Prop where
  lists : Lists ident m' r s
  kept : ∀ n, n ≠ r.table → n < m.tables.length → m'.tables[n]? = m.tables[n]?

theorem Changes.length_le (h : Changes ident m m' r s) : m.tables.length ≤ m'.tables.length := by
  by_contra hlt
  push Not at hlt
  -- The last table of the longer memory is either the one that was changed or a kept one.
  have hlast : m.tables.length - 1 < m.tables.length := by omega
  by_cases hr : m.tables.length - 1 = r.table
  · have hlists := h.lists.lt
    omega
  · have hkept := h.kept _ hr hlast
    rw [List.getElem?_eq_none (by omega), List.getElem?_eq_getElem hlast] at hkept
    cases hkept

theorem Changes.trans (h : Changes ident m m' r s) (h' : Changes ident m' m'' r s') :
    Changes ident m m'' r s' where
  lists := h'.lists
  kept n hr hn := (h'.kept n hr (hn.trans_le h.length_le)).trans (h.kept n hr hn)

/-- Another set lists what it did before. -/
theorem Changes.lists_of_ne (h : Changes ident m m' r s) (hne : r'.table ≠ r.table)
    (hr' : Lists ident m r' s') : Lists ident m' r' s' :=
  (h.kept _ hne hr'.lt).trans hr'

theorem changes_write (hr : r.table < m.tables.length) (s : OrderedSet α) :
    Changes ident m (m.write r (tableOf ident s)) r s where
  lists := by simp [Lists, write, hr]
  kept n hn _ := by simp [write, List.getElem?_set_ne (Ne.symm hn)]

theorem changes_clear (h : Lists ident m r s) : Changes ident m (m.clear r) r ∅ :=
  changes_write h.lt ∅

variable [DecidableEq κ] [DecidableEq α] (hident : Function.Injective ident)

include hident

theorem Lists.has_eq (h : Lists ident m r s) (x : α) : m.has ident r x = decide (x ∈ s) := by
  unfold has
  rw [h.table_eq, has_tableOf hident]

theorem Lists.containsAll_eq (h : Lists ident m r s) (xs : List α) :
    m.containsAll ident r xs = s.containsAll xs := by
  unfold containsAll OrderedSet.containsAll
  simp only [h.has_eq hident]

/-! ## Operations on one set -/

/-- The answer of an insertion is whether the item was absent. -/
theorem Lists.insert_eq (h : Lists ident m r s) (x : α) :
    (m.insert ident r x).1 = decide (x ∉ s) := by
  unfold insert
  rw [h.has_eq hident]
  by_cases hx : x ∈ s <;> simp [hx]

theorem changes_insert (h : Lists ident m r s) (x : α) :
    Changes ident m (m.insert ident r x).2 r (s.insert x) := by
  unfold insert
  rw [h.has_eq hident]
  by_cases hx : x ∈ s
  · have hsame : s.insert x = s := by
      apply OrderedSet.ext_toList
      rw [OrderedSet.toList_insert, if_pos hx]
    rw [if_pos (decide_eq_true hx), hsame]
    exact ⟨h, fun _ _ _ => rfl⟩
  · rw [if_neg (by simpa using hx), h.table_eq, put_tableOf hident hx]
    exact changes_write h.lt (s.insert x)

theorem changes_insertAll (h : Lists ident m r s) (xs : List α) :
    Changes ident m (m.insertAll ident r xs) r (s.insertAll xs) := by
  induction xs generalizing m s with
  | nil => exact ⟨h, fun _ _ _ => rfl⟩
  | cons x xs ih =>
    have hfirst := changes_insert hident h x
    exact hfirst.trans (ih hfirst.lists)

/-- What a set that lists certain items answers: an item is new if it is not among them, and the set
has all of several items if each of them is, however often and in whatever order they are named. -/
structure Answers (ident : α → κ) (m : SetMemory κ α) (r : SetRef) (items : List α) : Prop where
  items_eq : m.items r = items
  nodup : items.Nodup
  insert_iff : ∀ x, (m.insert ident r x).1 = true ↔ x ∉ items
  containsAll_iff : ∀ xs, m.containsAll ident r xs = true ↔ ∀ x ∈ xs, x ∈ items
  containsAll_congr : ∀ xs ys, (∀ x, x ∈ xs ↔ x ∈ ys) →
    m.containsAll ident r xs = m.containsAll ident r ys

theorem Lists.answers (h : Lists ident m r s) : Answers ident m r s.toList := by
  have hall (xs : List α) : m.containsAll ident r xs = true ↔ ∀ x ∈ xs, x ∈ s.toList := by
    rw [h.containsAll_eq hident]
    simp [OrderedSet.containsAll, OrderedSet.mem_def]
  refine ⟨h.items_eq, s.nodup, fun x => ?_, hall, fun xs ys hsame => ?_⟩
  · rw [h.insert_eq hident, decide_eq_true_iff, OrderedSet.mem_def]
  · rw [Bool.eq_iff_iff, hall, hall]
    simp only [hsame]

/-! ## Operations that make a set -/

theorem changes_make (m : SetMemory κ α) (kind : SetKind) (xs : List α) :
    Changes ident m (m.make ident kind xs).2 ⟨kind, m.tables.length⟩ (OrderedSet.ofList xs) := by
  have hempty : Changes ident m ⟨m.tables ++ [[]]⟩ ⟨kind, m.tables.length⟩ ∅ :=
    ⟨List.getElem?_concat_length, fun n _ hn => List.getElem?_append_left hn⟩
  exact hempty.trans (changes_insertAll hident hempty.lists xs)

theorem changes_freeze (h : Lists ident m r s) :
    Changes ident m (m.freeze ident r).2 ⟨.frozen, m.tables.length⟩ s := by
  have hmade := changes_make hident m .frozen s.toList
  rw [OrderedSet.ofList_toList] at hmade
  unfold freeze
  rwa [h.items_eq]

/-- The sets that are taken over are not the new one, so they list what they did at first when their
turn comes. -/
theorem changes_foldl_insertAll {m' : SetMemory κ α} {rs : List SetRef}
    {sets : List (OrderedSet α)} (hr : r.table = m.tables.length) (h : Changes ident m m' r s)
    (hrs : List.Forall₂ (Lists ident m) rs sets) :
    Changes ident m (rs.foldl (fun m o => m.insertAll ident r (m.items o)) m') r
      (sets.foldl (fun t o => t.insertAll o.toList) s) := by
  induction hrs generalizing m' s with
  | nil => exact h
  | @cons o set rs sets ho _ ih =>
    have hne : o.table ≠ r.table := hr ▸ ho.lt.ne
    have hitems : m'.items o = set.toList := (h.lists_of_ne hne ho).items_eq
    rw [List.foldl_cons, List.foldl_cons, hitems]
    exact ih (h.trans (changes_insertAll hident h.lists set.toList))

theorem changes_unite {rs : List SetRef} {sets : List (OrderedSet α)} (h : Lists ident m r s)
    (hrs : List.Forall₂ (Lists ident m) rs sets) :
    Changes ident m (m.unite ident r rs).2 ⟨.growing, m.tables.length⟩ (s.union sets) := by
  have hmade := changes_make hident m .growing (m.items r)
  rw [h.items_eq] at hmade
  unfold unite
  rw [h.items_eq]
  exact changes_foldl_insertAll hident rfl hmade hrs

end Lists

end SetMemory

end StyleUsage
