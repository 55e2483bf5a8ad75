/-!
# Sets in order of insertion

A set is a list without repetition, in order of first insertion. Its view is `toList`; each
operation has a lemma that says what it does to that view. The members are handles, so two
members are the same only if they are one handle, however alike the things behind them are.
-/

namespace StyleUsage

/-- A finite set that remembers the order of first insertion. -/
structure OrderedSet (α : Type) where
  /-- The members, each once, in order of first insertion. -/
  toList : List α
  nodup : toList.Nodup

namespace OrderedSet

variable {α : Type}

/-- The set without members. -/
def empty : OrderedSet α := ⟨[], List.nodup_nil⟩

instance : Inhabited (OrderedSet α) := ⟨empty⟩

instance : EmptyCollection (OrderedSet α) := ⟨empty⟩

instance : Membership α (OrderedSet α) := ⟨fun s a => a ∈ s.toList⟩

@[ext] theorem ext_toList {s t : OrderedSet α} (h : s.toList = t.toList) : s = t := by
  cases s; cases t; cases h; rfl

/-- The number of members. -/
def size (s : OrderedSet α) : Nat := s.toList.length

/-- Whether there is no member. -/
def isEmpty (s : OrderedSet α) : Bool := s.toList.isEmpty

@[simp] theorem toList_empty : (∅ : OrderedSet α).toList = [] := rfl

theorem mem_def {s : OrderedSet α} {a : α} : a ∈ s ↔ a ∈ s.toList := Iff.rfl

variable [DecidableEq α]

instance (a : α) (s : OrderedSet α) : Decidable (a ∈ s) :=
  inferInstanceAs (Decidable (a ∈ s.toList))

instance : DecidableEq (OrderedSet α) := fun s t =>
  decidable_of_iff (s.toList = t.toList) ⟨ext_toList, fun h => h ▸ rfl⟩

/-- Put a member at the end, unless it is there already. -/
def insert (s : OrderedSet α) (a : α) : OrderedSet α :=
  if h : a ∈ s.toList then s
  else ⟨s.toList ++ [a], by
    rw [List.nodup_append]
    refine ⟨s.nodup, by simp, ?_⟩
    intro x hx y hy hxy
    simp only [List.mem_singleton] at hy
    exact h (hy ▸ hxy ▸ hx)⟩

/-- Put several members at the end, one after another. -/
def insertAll (s : OrderedSet α) (items : List α) : OrderedSet α :=
  items.foldl insert s

def ofList (items : List α) : OrderedSet α :=
  (∅ : OrderedSet α).insertAll items

/-- A set and the members of further sets, in that order. -/
def union (s : OrderedSet α) (others : List (OrderedSet α)) : OrderedSet α :=
  others.foldl (fun t o => t.insertAll o.toList) (ofList s.toList)

/-- Whether every item is a member; true of no items. -/
def containsAll (s : OrderedSet α) (items : List α) : Bool :=
  items.all fun a => decide (a ∈ s)

theorem toList_insert (s : OrderedSet α) (a : α) :
    (s.insert a).toList = if a ∈ s then s.toList else s.toList ++ [a] := by
  unfold insert
  by_cases h : a ∈ s.toList
  · rw [dif_pos h, if_pos (mem_def.2 h)]
  · rw [dif_neg h, if_neg (fun h' => h (mem_def.1 h'))]

@[simp] theorem mem_insert {s : OrderedSet α} {a b : α} : b ∈ s.insert a ↔ b ∈ s ∨ b = a := by
  show b ∈ (s.insert a).toList ↔ b ∈ s.toList ∨ b = a
  rw [toList_insert]
  split
  · next h =>
    constructor
    · exact Or.inl
    · rintro (h' | rfl)
      · exact h'
      · exact h
  · simp

@[simp] theorem insertAll_nil (s : OrderedSet α) : s.insertAll [] = s := rfl

@[simp] theorem insertAll_cons (s : OrderedSet α) (a : α) (items : List α) :
    s.insertAll (a :: items) = (s.insert a).insertAll items := rfl

@[simp] theorem mem_insertAll {s : OrderedSet α} {items : List α} {b : α} :
    b ∈ s.insertAll items ↔ b ∈ s ∨ b ∈ items := by
  induction items generalizing s with
  | nil => simp
  | cons a items ih => simp [ih, or_assoc]

end OrderedSet

end StyleUsage
