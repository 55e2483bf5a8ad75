import StyleUsage.Block.Dependencies
import StyleUsage.Proofs.Collection.OrderedSet
import Mathlib.Data.List.Chain
import Mathlib.Logic.Function.Iterate
import Mathlib.Logic.Relation

/-!
# What the walks over dependencies reach

Both walks are loops over a pending list, and one pass of a loop looks at the first block of the
list (`visitPass`, `spreadPass`). A loop ends after a number of passes that is known from its result
(`iterate_visitPass`, `iterate_spreadPass`).

What a walk has met so far is all that it can reach but for what the pending blocks lead to: that is
the invariant of the one (`Visited`) and of the other (`Explored`). So at the end `below` is what
one dependency or more lead to (`below_reaches`), and `spread` is what the blocks that it starts
with and any number of dependencies lead to (`mem_spread_iff`).
-/

namespace StyleUsage.Dependencies

open Relation

variable {β : Type} [DecidableEq β] {g : Dependencies β} {a b x : β}

/-- A block has another one among its direct dependencies. -/
def DependsOn (g : Dependencies β) (a d : β) : Prop := d ∈ g.direct a

/-- Dependencies lead from a block back to it. -/
def OnCycle (g : Dependencies β) (b : β) : Prop :=
  ∃ path : List β, (b :: path).IsChain g.DependsOn ∧ path.getLast? = some b

omit [DecidableEq β] in
/-- One step or more lead along a path. -/
theorem transGen_iff_exists_path {r : β → β → Prop} :
    TransGen r a x ↔ ∃ path : List β, (a :: path).IsChain r ∧ path.getLast? = some x := by
  rw [TransGen.head'_iff]
  constructor
  · rintro ⟨d, hd, hx⟩
    obtain ⟨path, hpath, hlast⟩ := List.exists_isChain_cons_of_relationReflTransGen hx
    refine ⟨d :: path, List.isChain_cons_cons.2 ⟨hd, hpath⟩, ?_⟩
    rw [List.getLast?_eq_some_getLast (List.cons_ne_nil d path), hlast]
  · rintro ⟨path, hpath, hlast⟩
    cases path with
    | nil => cases hlast
    | cons d path =>
      rw [List.getLast?_eq_some_getLast (List.cons_ne_nil d path)] at hlast
      obtain ⟨hd, hpath⟩ := List.isChain_cons_cons.1 hpath
      exact ⟨d, hd, List.relationReflTransGen_of_exists_isChain_cons path hpath
        (Option.some.inj hlast)⟩

def Reaches (g : Dependencies β) (blocks : List β) (x : β) : Prop :=
  ∃ b ∈ blocks, ReflTransGen g.DependsOn b x

theorem reaches_of_mem {blocks : List β} (h : x ∈ blocks) : g.Reaches blocks x :=
  ⟨x, h, .refl⟩

theorem reaches_append {blocks more : List β} :
    g.Reaches (blocks ++ more) x ↔ g.Reaches blocks x ∨ g.Reaches more x := by
  simp only [Reaches, List.mem_append, or_and_right, exists_or]

theorem reaches_cons {blocks : List β} :
    g.Reaches (b :: blocks) x ↔ ReflTransGen g.DependsOn b x ∨ g.Reaches blocks x := by
  simp only [Reaches, List.mem_cons, or_and_right, exists_or, exists_eq_left]

/-- What a block leads to is the block, or what its direct dependencies lead to. -/
theorem reflTransGen_iff_reaches :
    ReflTransGen g.DependsOn b x ↔ b = x ∨ g.Reaches (g.direct b) x :=
  ReflTransGen.cases_head_iff

theorem reaches_reverse {blocks : List β} : g.Reaches blocks.reverse x ↔ g.Reaches blocks x := by
  simp only [Reaches, List.mem_reverse]

/-- The direct dependencies of a block lead to what one dependency or more lead to. -/
theorem reaches_direct_iff : g.Reaches (g.direct b) x ↔ TransGen g.DependsOn b x :=
  (TransGen.head'_iff (r := g.DependsOn)).symm

/-! ## Visiting -/

def visitPass (g : Dependencies β) : OrderedSet β × List β → OrderedSet β × List β
  | (visited, []) => (visited, [])
  | (visited, b :: rest) =>
    if b ∈ visited then (visited, rest) else (visited.insert b, (g.direct b).reverse ++ rest)

/-- How many direct dependencies the blocks of a list have, all in all. -/
def countDirect (g : Dependencies β) (blocks : List β) : Nat :=
  (blocks.flatMap g.direct).length

theorem countDirect_insert {visited : OrderedSet β} (hb : b ∉ visited) :
    g.countDirect (visited.insert b).toList =
      g.countDirect visited.toList + (g.direct b).length := by
  unfold countDirect
  rw [OrderedSet.toList_insert, if_neg hb]
  simp

/-- There is one pass for each pending block and one for each direct dependency of a block that is
visited on the way. -/
theorem iterate_visitPass (visited : OrderedSet β) (pending : List β) :
    ∃ n, n + g.countDirect visited.toList =
        pending.length + g.countDirect (g.visit visited pending).toList ∧
      g.visitPass^[n] (visited, pending) = (g.visit visited pending, []) := by
  fun_induction visit g visited pending with
  | case1 visited => exact ⟨0, by simp, rfl⟩
  | case2 visited b rest hb ih =>
    obtain ⟨n, hn, hrun⟩ := ih
    have hpass : g.visitPass (visited, b :: rest) = (visited, rest) := if_pos hb
    refine ⟨n + 1, ?_, ?_⟩
    · rw [List.length_cons]
      omega
    · rw [Function.iterate_succ_apply, hpass, hrun]
  | case3 visited b rest hb ih =>
    obtain ⟨n, hn, hrun⟩ := ih
    have hpass : g.visitPass (visited, b :: rest) =
        (visited.insert b, (g.direct b).reverse ++ rest) := if_neg hb
    refine ⟨n + 1, ?_, ?_⟩
    · rw [countDirect_insert hb, List.length_append, List.length_reverse] at hn
      rw [List.length_cons]
      omega
    · rw [Function.iterate_succ_apply, hpass, hrun]

/-- What a visited block depends on was visited, or is pending. -/
def Visited (g : Dependencies β) (visited : OrderedSet β) (pending : List β) : Prop :=
  ∀ a ∈ visited, ∀ d ∈ g.direct a, d ∈ visited ∨ d ∈ pending

/-- From the visited blocks no way leads on but through a pending block. -/
theorem Visited.reaches {visited : OrderedSet β} {pending : List β} (h : g.Visited visited pending)
    (ha : a ∈ visited) (hx : ReflTransGen g.DependsOn a x) :
    x ∈ visited ∨ g.Reaches pending x := by
  induction hx with
  | refl => exact .inl ha
  | @tail y z _ hz ih =>
    rcases ih with hy | ⟨p, hp, hy⟩
    · exact (h y hy z hz).imp_right reaches_of_mem
    · exact .inr ⟨p, hp, hy.tail hz⟩

theorem Visited.skip {visited : OrderedSet β} {rest : List β} (h : g.Visited visited (b :: rest))
    (hb : b ∈ visited) : g.Visited visited rest := by
  intro a ha d hd
  rcases h a ha d hd with hd | hd
  · exact .inl hd
  · rcases List.mem_cons.1 hd with rfl | hd
    · exact .inl hb
    · exact .inr hd

theorem Visited.enter {visited : OrderedSet β} {rest : List β}
    (h : g.Visited visited (b :: rest)) :
    g.Visited (visited.insert b) ((g.direct b).reverse ++ rest) := by
  intro a ha d hd
  rw [OrderedSet.mem_insert, List.mem_append, List.mem_reverse]
  rcases OrderedSet.mem_insert.1 ha with ha | rfl
  · rcases h a ha d hd with hd | hd
    · exact .inl (.inl hd)
    · rcases List.mem_cons.1 hd with rfl | hd
      · exact .inl (.inr rfl)
      · exact .inr (.inr hd)
  · exact .inr (.inl hd)

/-- At the end the visited blocks are those from before and all that the pending ones lead to. -/
theorem mem_visit_iff {visited : OrderedSet β} {pending : List β} (h : g.Visited visited pending) :
    x ∈ g.visit visited pending ↔ x ∈ visited ∨ g.Reaches pending x := by
  fun_induction visit g visited pending with
  | case1 visited => simp [Reaches]
  | case2 visited b rest hb ih =>
    rw [ih (h.skip hb), reaches_cons]
    constructor
    · exact Or.imp_right .inr
    · rintro (hx | hx | hx)
      · exact .inl hx
      · exact (h.skip hb).reaches hb hx
      · exact .inr hx
  | case3 visited b rest hb ih =>
    rw [ih h.enter, reaches_cons, reaches_append, reaches_reverse, reflTransGen_iff_reaches,
      OrderedSet.mem_insert, or_assoc, or_assoc, eq_comm]

theorem mem_below_iff : x ∈ g.below b ↔ TransGen g.DependsOn b x := by
  have hstart : g.Visited ∅ (g.direct b).reverse := fun a ha => by cases ha
  unfold below
  rw [mem_visit_iff hstart, reaches_reverse, reaches_direct_iff]
  exact or_iff_right fun hx => by cases hx

/-- **Dependencies of a block.** For every finite table of dependencies the loop that starts with
the direct dependencies of a block ends, after one pass for each of them and one for each direct
dependency of a block that it visits. Its result lists each block once, and these are the blocks
that one dependency or more lead to; the block itself is one of them exactly if it is on a cycle. -/
theorem below_reaches (g : Dependencies β) (b : β) :
    let result := g.below b
    g.visitPass^[(g.direct b).length + g.countDirect result.toList] (∅, (g.direct b).reverse) =
        (result, []) ∧
      result.toList.Nodup ∧
      (∀ x, x ∈ result.toList ↔ TransGen g.DependsOn b x) ∧
      (b ∈ result.toList ↔ g.OnCycle b) := by
  intro result
  obtain ⟨n, hn, hrun⟩ := iterate_visitPass (g := g) ∅ (g.direct b).reverse
  have hcount : n = (g.direct b).length + g.countDirect result.toList := by
    rw [List.length_reverse] at hn
    exact hn
  rw [← hcount]
  exact ⟨hrun, result.nodup, fun _ => mem_below_iff,
    mem_below_iff.trans transGen_iff_exists_path⟩

/-! ## Spreading -/

/-- A reported block is met: a new one joins the set and comes next. -/
def meet (state : OrderedSet β × List β) (d : β) : OrderedSet β × List β :=
  if d ∈ state.1 then state else (state.1.insert d, d :: state.2)

/-- One pass over the pending list: the reported blocks are met one after another. -/
def spreadPass (g : Dependencies β) : OrderedSet β × List β → OrderedSet β × List β
  | (seen, []) => (seen, [])
  | (seen, b :: rest) => (g.direct b).foldl meet (seen, rest)

theorem fresh_concat (seen : OrderedSet β) (blocks : List β) (d : β) :
    fresh seen (blocks ++ [d]) =
      if d ∈ seen.insertAll blocks then fresh seen blocks else fresh seen blocks ++ [d] := by
  unfold fresh
  rw [OrderedSet.ofList_concat, OrderedSet.toList_insert]
  by_cases hd : d ∈ OrderedSet.ofList blocks
  · have hmem : d ∈ seen.insertAll blocks :=
      OrderedSet.mem_insertAll.2 (.inr (OrderedSet.mem_ofList.1 hd))
    rw [if_pos hd, if_pos hmem]
  · have hmem : d ∈ seen.insertAll blocks ↔ d ∈ seen := by
      rw [OrderedSet.mem_insertAll]
      exact or_iff_left fun h => hd (OrderedSet.mem_ofList.2 h)
    rw [if_neg hd, List.filter_append]
    by_cases hs : d ∈ seen
    · rw [if_pos (hmem.2 hs), List.filter_cons_of_neg (by simpa using hs)]
      exact List.append_nil _
    · rw [if_neg fun h => hs (hmem.1 h), List.filter_cons_of_pos (by simpa using hs)]
      rfl

theorem toList_insertAll (seen : OrderedSet β) (blocks : List β) :
    (seen.insertAll blocks).toList = seen.toList ++ fresh seen blocks := by
  induction blocks using List.reverseRecOn with
  | nil => exact (List.append_nil _).symm
  | append_singleton blocks d ih =>
    rw [OrderedSet.insertAll_append, OrderedSet.insertAll_cons, OrderedSet.insertAll_nil,
      OrderedSet.toList_insert, fresh_concat, ih]
    by_cases hd : d ∈ seen.insertAll blocks
    · rw [if_pos hd, if_pos hd]
    · rw [if_neg hd, if_neg hd, List.append_assoc]

/-- Meeting blocks one after another adds them to the set, and the new ones come next, the last one
first. -/
theorem foldl_meet (seen : OrderedSet β) (rest blocks : List β) :
    blocks.foldl meet (seen, rest) =
      (seen.insertAll blocks, (fresh seen blocks).reverse ++ rest) := by
  induction blocks using List.reverseRecOn with
  | nil => rfl
  | append_singleton blocks d ih =>
    rw [List.foldl_append, ih, OrderedSet.insertAll_append, fresh_concat]
    show meet (seen.insertAll blocks, _) d = ((seen.insertAll blocks).insert d, _)
    unfold meet
    by_cases hd : d ∈ seen.insertAll blocks
    · have hsame : (seen.insertAll blocks).insert d = seen.insertAll blocks :=
        OrderedSet.ext_toList ((OrderedSet.toList_insert _ _).trans (if_pos hd))
      rw [if_pos hd, if_pos hd, hsame]
    · rw [if_neg hd, if_neg hd, List.reverse_concat]
      rfl

/-- There is one pass for each pending block and one for each block that is found on the way. -/
theorem iterate_spreadPass (seen : OrderedSet β) (pending : List β) :
    ∃ n, n + seen.size = pending.length + (g.spread seen pending).size ∧
      g.spreadPass^[n] (seen, pending) = (g.spread seen pending, []) := by
  fun_induction spread g seen pending with
  | case1 seen => exact ⟨0, by simp, rfl⟩
  | case2 seen b rest ih =>
    obtain ⟨n, hn, hrun⟩ := ih
    have hpass : g.spreadPass (seen, b :: rest) =
        (seen.insertAll (g.direct b), (fresh seen (g.direct b)).reverse ++ rest) :=
      foldl_meet seen rest (g.direct b)
    refine ⟨n + 1, ?_, ?_⟩
    · unfold OrderedSet.size at hn ⊢
      rw [toList_insertAll, List.length_append, List.length_append, List.length_reverse] at hn
      rw [List.length_cons]
      omega
    · rw [Function.iterate_succ_apply, hpass, hrun]

/-- Every pending block was seen, and a seen block that is not pending has nothing to report that
was not seen. -/
structure Explored (g : Dependencies β) (seen : OrderedSet β) (pending : List β) : Prop where
  pending_seen : ∀ p ∈ pending, p ∈ seen
  direct_seen : ∀ a ∈ seen, a ∈ pending ∨ ∀ d ∈ g.direct a, d ∈ seen

theorem Explored.pass {seen : OrderedSet β} {rest : List β} (h : g.Explored seen (b :: rest)) :
    g.Explored (seen.insertAll (g.direct b)) ((fresh seen (g.direct b)).reverse ++ rest) where
  pending_seen p hp := by
    rw [OrderedSet.mem_def, toList_insertAll, List.mem_append]
    rcases List.mem_append.1 hp with hp | hp
    · exact .inr (List.mem_reverse.1 hp)
    · exact .inl (h.pending_seen p (List.mem_cons_of_mem b hp))
  direct_seen a ha := by
    rw [OrderedSet.mem_def, toList_insertAll, List.mem_append] at ha
    rw [List.mem_append, List.mem_reverse]
    rcases ha with ha | ha
    · rcases h.direct_seen a ha with ha | ha
      · rcases List.mem_cons.1 ha with rfl | ha
        · exact .inr fun d hd => OrderedSet.mem_insertAll.2 (.inr hd)
        · exact .inl (.inr ha)
      · exact .inr fun d hd => OrderedSet.mem_insertAll.2 (.inl (ha d hd))
    · exact .inl (.inl ha)

/-- At the end there is what the seen blocks lead to. -/
theorem mem_spread_iff {seen : OrderedSet β} {pending : List β} (h : g.Explored seen pending) :
    x ∈ g.spread seen pending ↔ g.Reaches seen.toList x := by
  fun_induction spread g seen pending with
  | case1 seen =>
    refine ⟨reaches_of_mem, ?_⟩
    rintro ⟨a, ha, hx⟩
    induction hx with
    | refl => exact ha
    | @tail y z _ hz ih =>
      rcases h.direct_seen y ih with hy | hy
      · cases hy
      · exact hy z hz
  | case2 seen b rest ih =>
    rw [ih h.pass]
    constructor
    · rintro ⟨a, ha, hx⟩
      rcases OrderedSet.mem_insertAll.1 (OrderedSet.mem_def.2 ha) with ha | ha
      · exact ⟨a, ha, hx⟩
      · exact ⟨b, h.pending_seen b List.mem_cons_self, hx.head ha⟩
    · rintro ⟨a, ha, hx⟩
      exact ⟨a, OrderedSet.mem_insertAll.2 (.inl ha), hx⟩

theorem explored_start (start : OrderedSet β) : g.Explored start start.toList.reverse where
  pending_seen _ hp := List.mem_reverse.1 hp
  direct_seen _ ha := .inl (List.mem_reverse.2 ha)

theorem mem_closure_iff {blocks : List β} : x ∈ g.closure blocks ↔ g.Reaches blocks x := by
  unfold closure
  rw [mem_spread_iff (explored_start _)]
  unfold Reaches
  simp only [← OrderedSet.mem_def, OrderedSet.mem_ofList]

/-- The loop that starts with some blocks has one pass for each block of its result. -/
theorem iterate_closure (g : Dependencies β) (blocks : List β) :
    g.spreadPass^[(g.closure blocks).size]
        (.ofList blocks, (OrderedSet.ofList blocks).toList.reverse) = (g.closure blocks, []) := by
  obtain ⟨n, hn, hrun⟩ := iterate_spreadPass (g := g) (.ofList blocks)
    (OrderedSet.ofList blocks).toList.reverse
  have hcount : n = (g.closure blocks).size := by
    rw [List.length_reverse] at hn
    exact Nat.add_right_cancel (hn.trans (Nat.add_comm _ _))
  rw [← hcount]
  exact hrun

end StyleUsage.Dependencies
