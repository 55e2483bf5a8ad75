import StyleUsage.Collection.Entries
import StyleUsage.Collection.OrderedSet

/-!
# Dependencies between blocks

A table says which blocks each block depends on. Two walks collect what is reached: `below`
starts with the direct dependencies of one block, and `spread` starts with a set of blocks and
adds what the blocks of the set report. Both keep the blocks still to be looked at in a list whose
head comes next, and both end because only finitely many blocks occur in the table.

An analysis handles blocks and styles by handles and compares them by nothing else. A catalog tells
what stands behind the handles.
-/

namespace StyleUsage

/-- The blocks that each block depends on, in the order in which they were declared. -/
abbrev Dependencies (β : Type) := Entries β (List β)

namespace Dependencies

variable {β : Type} [DecidableEq β]

def direct (g : Dependencies β) (b : β) : List β := (g.get? b).getD []

/-- All blocks that some block depends on, with repetition. -/
def targets (g : Dependencies β) : List β := g.values.flatten

theorem mem_targets_of_direct {g : Dependencies β} {b d : β} (h : d ∈ g.direct b) :
    d ∈ g.targets := by
  induction g with
  | nil => simp [direct] at h
  | cons p g ih =>
    obtain ⟨k, ds⟩ := p
    by_cases hk : k = b
    · simp only [direct, Entries.get?, hk, if_true, Option.getD_some] at h
      exact List.mem_flatten.2 ⟨ds, by simp [Entries.values], h⟩
    · simp only [direct, Entries.get?, hk, if_false] at h
      obtain ⟨l, hl, hd⟩ := List.mem_flatten.1 (ih h)
      exact List.mem_flatten.2 ⟨l, by
        simp only [Entries.values, List.map_cons, List.mem_cons]
        exact Or.inr hl, hd⟩

/-- How many entries of a list of blocks are not yet in a set. -/
def missing (blocks : List β) (seen : OrderedSet β) : Nat :=
  blocks.countP fun b => decide (b ∉ seen)

theorem missing_le {blocks : List β} {s t : OrderedSet β} (h : ∀ b, b ∈ s → b ∈ t) :
    missing blocks t ≤ missing blocks s := by
  apply List.countP_mono_left
  intro b _ hb
  have hb' : b ∉ t := by simpa using hb
  simpa using fun hs => hb' (h b hs)

theorem missing_lt {blocks : List β} {s t : OrderedSet β} {a : β} (h : ∀ b, b ∈ s → b ∈ t)
    (ha : a ∈ blocks) (hs : a ∉ s) (ht : a ∈ t) :
    missing blocks t < missing blocks s := by
  induction blocks with
  | nil => simp at ha
  | cons x xs ih =>
    have hle : missing xs t ≤ missing xs s := missing_le h
    unfold missing at ih hle ⊢
    simp only [List.countP_cons]
    by_cases hx : x = a
    · subst hx
      simp only [ht, hs, not_true_eq_false, not_false_eq_true, decide_true, decide_false, if_true]
      simp only [Bool.false_eq_true, if_false]
      omega
    · have ha' : a ∈ xs := by
        rcases List.mem_cons.1 ha with h' | h'
        · exact absurd h'.symm hx
        · exact h'
      have hlt := ih ha'
      by_cases hxt : x ∈ t
      · simp only [hxt, not_true_eq_false, decide_false, Bool.false_eq_true, if_false]
        omega
      · have hxs : x ∉ s := fun h' => hxt (h x h')
        simp only [hxt, hxs, not_false_eq_true, decide_true, if_true]
        omega

/-- Look at the blocks of a list, the head first. A block that was visited is passed over; any
other is visited, and its direct dependencies come next, the last one first. -/
def visit (g : Dependencies β) (visited : OrderedSet β) : List β → OrderedSet β
  | [] => visited
  | b :: rest =>
    if b ∈ visited then visit g visited rest
    else visit g (visited.insert b) ((g.direct b).reverse ++ rest)
termination_by pending => (missing g.keys visited, pending.length)
decreasing_by
  · exact Prod.Lex.right _ (by simp)
  · next hb =>
    by_cases hk : b ∈ g.keys
    · exact Prod.Lex.left _ _ (missing_lt (fun _ h => by simp [h]) hk hb (by simp))
    · have hd : g.direct b = [] := by rw [direct, Entries.get?_eq_none hk, Option.getD_none]
      have hm : missing g.keys (visited.insert b) ≤ missing g.keys visited :=
        missing_le (fun _ h => by simp [h])
      rw [hd]
      rcases Nat.lt_or_eq_of_le hm with h | h
      · exact Prod.Lex.left _ _ h
      · rw [h]
        exact Prod.Lex.right _ (by simp)

/-- Every block reached from a block by one dependency or more. -/
def below (g : Dependencies β) (b : β) : OrderedSet β :=
  visit g ∅ (g.direct b).reverse

/-- The blocks of a list that are not in a set, each once. -/
def fresh (seen : OrderedSet β) (blocks : List β) : List β :=
  (OrderedSet.ofList blocks).toList.filter fun b => decide (b ∉ seen)

/-- Look at the blocks of a list, the head first: what a block reports is added to the set, and
what is new in it comes next, the last one first. -/
def spread (g : Dependencies β) (seen : OrderedSet β) : List β → OrderedSet β
  | [] => seen
  | b :: rest =>
    spread g (seen.insertAll (g.direct b)) ((fresh seen (g.direct b)).reverse ++ rest)
termination_by pending => (missing g.targets seen, pending.length)
decreasing_by
  cases hf : fresh seen (g.direct b) with
  | nil =>
    have hm : missing g.targets (seen.insertAll (g.direct b)) ≤ missing g.targets seen :=
      missing_le (fun _ h => by simp [h])
    rcases Nat.lt_or_eq_of_le hm with h | h
    · exact Prod.Lex.left _ _ h
    · rw [h]
      exact Prod.Lex.right _ (by simp)
  | cons a as =>
    have ha : a ∈ fresh seen (g.direct b) := by rw [hf]; simp
    simp only [fresh, List.mem_filter, decide_eq_true_eq] at ha
    have hd : a ∈ g.direct b := by
      have := OrderedSet.mem_insertAll.1 (OrderedSet.mem_def.2 ha.1)
      rcases this with h | h
      · exact absurd h (by simp [OrderedSet.mem_def])
      · exact h
    exact Prod.Lex.left _ _ (missing_lt (fun _ h => by simp [h])
      (mem_targets_of_direct hd) ha.2 (by simp [hd]))

/-- The blocks of a list with everything that is reported by them, by what they report, and so
on. -/
def closure (g : Dependencies β) (blocks : List β) : OrderedSet β :=
  let start := OrderedSet.ofList blocks
  spread g start start.toList.reverse

end Dependencies

/-- What stands behind the handles `β` of blocks and `σ` of styles. -/
structure Catalog (β σ : Type) where
  source : β → String
  /-- For each block the blocks that it reports as its dependencies, near and far. -/
  reports : Dependencies β
  owner : σ → β
  fragment : σ → String

end StyleUsage
