import StyleUsage.Block.Store
import Mathlib.Logic.Function.Basic

/-!
# The styles that a store makes

A block has one style for each fragment: asking for it again gives the same one (`get?_styleFor`),
and asking a block changes no other block (`block_styleFor_of_ne`). The styles that a block knows of
belong to it (`WellFormed`), so a style stands for one block and one fragment, and no further styles
are made in that way (`NoTwins`). The tables of a store say of each block what the block says itself
(`direct_declared`, `direct_reports_catalog`).
-/

namespace StyleUsage.BlockStore

variable {s : BlockStore} {b b' : BlockId} {f f' : String}

/-- Whatever style a block knows of for a fragment is there, belongs to the block and has the
fragment. -/
structure WellFormed (s : BlockStore) : Prop where
  style_lt : ∀ {b f i}, Entries.get? (s.block b).styles f = some i → i.index < s.styles.length
  style_eq : ∀ {b f i}, Entries.get? (s.block b).styles f = some i →
    (s.style i).owner = b ∧ (s.style i).fragment = f

theorem wellFormed_empty : empty.WellFormed where
  style_lt h := by cases h
  style_eq h := by cases h

/-! ## Blocks -/

theorem block_addBlock (source : String) (reportsAsGiven : Bool) :
    (s.addBlock source reportsAsGiven).2.block b =
      if b = (s.addBlock source reportsAsGiven).1 then ⟨source, [], reportsAsGiven, []⟩
      else s.block b := by
  obtain ⟨i⟩ := b
  simp only [addBlock, block, BlockId.mk.injEq]
  by_cases h : i = s.blocks.length
  · rw [if_pos h, h, List.getElem?_concat_length]
    rfl
  · rw [if_neg h]
    rcases Nat.lt_or_gt_of_ne h with hlt | hgt
    · rw [List.getElem?_append_left hlt]
    · rw [List.getElem?_eq_none (by simp; omega), List.getElem?_eq_none (by omega)]

theorem index_addBlock_lt (s : BlockStore) (source : String) (reportsAsGiven : Bool) :
    (s.addBlock source reportsAsGiven).1.index <
      (s.addBlock source reportsAsGiven).2.blocks.length := by
  show s.blocks.length < (s.blocks ++ [_]).length
  rw [List.length_append]
  exact Nat.lt_succ_self _

theorem block_modifyBlock (hb : b.index < s.blocks.length) (g : StoredBlock → StoredBlock) :
    (s.modifyBlock b g).block b' = if b = b' then g (s.block b') else s.block b' := by
  obtain ⟨i⟩ := b
  obtain ⟨j⟩ := b'
  simp only [modifyBlock, block, List.getElem?_modify, BlockId.mk.injEq]
  by_cases h : i = j
  · subst h
    rw [List.getElem?_eq_getElem hb]
    simp
  · simp [h]

theorem WellFormed.addBlock (h : s.WellFormed) (source : String) (reportsAsGiven : Bool) :
    (s.addBlock source reportsAsGiven).2.WellFormed := by
  have hknown : ∀ {b f i},
      Entries.get? ((s.addBlock source reportsAsGiven).2.block b).styles f = some i →
      Entries.get? (s.block b).styles f = some i := by
    intro b f i hi
    rw [block_addBlock] at hi
    split at hi
    · cases hi
    · exact hi
  exact ⟨fun hi => h.style_lt (hknown hi), fun hi => h.style_eq (hknown hi)⟩

/-! ## Styles -/

/-- The style for a fragment is the one the block knows of, or else a new one that it gets to know
of. -/
theorem styleFor_cases (s : BlockStore) (b : BlockId) (f : String) :
    (∃ i, Entries.get? (s.block b).styles f = some i ∧ s.styleFor b f = (i, s)) ∨
    (Entries.get? (s.block b).styles f = none ∧ s.styleFor b f = (⟨s.styles.length⟩,
      (s.addTwin b f).2.modifyBlock b fun x =>
        { x with styles := Entries.put x.styles f ⟨s.styles.length⟩ })) := by
  unfold styleFor
  cases h : Entries.get? (s.block b).styles f with
  | some i => exact .inl ⟨i, rfl, rfl⟩
  | none => exact .inr ⟨rfl, rfl⟩

theorem length_blocks_styleFor : (s.styleFor b f).2.blocks.length = s.blocks.length := by
  rcases styleFor_cases s b f with ⟨i, -, h⟩ | ⟨-, h⟩
  · rw [h]
  · rw [h]
    exact List.length_modify ..

theorem block_styleFor_of_ne (hb : b.index < s.blocks.length) (hne : b ≠ b') :
    (s.styleFor b f).2.block b' = s.block b' := by
  rcases styleFor_cases s b f with ⟨i, -, h⟩ | ⟨-, h⟩
  · rw [h]
  · rw [h, block_modifyBlock (s := (s.addTwin b f).2) hb, if_neg hne]
    rfl

theorem source_styleFor (hb : b.index < s.blocks.length) :
    ((s.styleFor b f).2.block b).source = (s.block b).source := by
  rcases styleFor_cases s b f with ⟨i, -, h⟩ | ⟨-, h⟩
  · rw [h]
  · rw [h, block_modifyBlock (s := (s.addTwin b f).2) hb, if_pos rfl]
    rfl

/-- After asking for the style of a fragment the block knows of the one that was given, and of the
same as before for any other fragment. -/
theorem get?_styleFor (hb : b.index < s.blocks.length) :
    Entries.get? ((s.styleFor b f).2.block b).styles f' =
      if f = f' then some (s.styleFor b f).1 else Entries.get? (s.block b).styles f' := by
  rcases styleFor_cases s b f with ⟨i, hi, h⟩ | ⟨-, h⟩
  · rw [h]
    by_cases hf : f = f'
    · rw [if_pos hf, ← hf, hi]
    · rw [if_neg hf]
  · rw [h, block_modifyBlock (s := (s.addTwin b f).2) hb, if_pos rfl]
    exact Entries.get?_put _ _ _ _

theorem WellFormed.styleFor (h : s.WellFormed) (hb : b.index < s.blocks.length) :
    (s.styleFor b f).2.WellFormed := by
  rcases styleFor_cases s b f with ⟨i, -, heq⟩ | ⟨-, heq⟩
  · rw [heq]
    exact h
  · rw [heq]
    -- A style is the new one, or one that some block knew of before.
    have hknown : ∀ {b' f' i}, Entries.get? (((s.addTwin b f).2.modifyBlock b fun x =>
        { x with styles := Entries.put x.styles f ⟨s.styles.length⟩ }).block b').styles f' = some i →
        (b = b' ∧ f = f' ∧ i = ⟨s.styles.length⟩) ∨
          Entries.get? (s.block b').styles f' = some i := by
      intro b' f' i hi
      rw [block_modifyBlock (s := (s.addTwin b f).2) hb] at hi
      split at hi
      · next hbb =>
        rw [Entries.get?_put] at hi
        split at hi
        · next hff => exact .inl ⟨hbb, hff, (Option.some.inj hi).symm⟩
        · exact .inr hi
      · exact .inr hi
    constructor
    · intro b' f' i hi
      show i.index < (s.styles ++ [_]).length
      rw [List.length_append]
      rcases hknown hi with ⟨-, -, rfl⟩ | hi
      · exact Nat.lt_succ_self _
      · exact Nat.lt_succ_of_lt (h.style_lt hi)
    · intro b' f' i hi
      show ((s.styles ++ [_])[i.index]?.getD default).owner = _ ∧
        ((s.styles ++ [_])[i.index]?.getD default).fragment = _
      rcases hknown hi with ⟨rfl, rfl, rfl⟩ | hi
      · rw [List.getElem?_concat_length]
        exact ⟨rfl, rfl⟩
      · rw [List.getElem?_append_left (h.style_lt hi)]
        exact h.style_eq hi

/-! ## The styles of a block -/

/-- Ask for the styles of several fragments of a block. -/
def makeStyles (s : BlockStore) (b : BlockId) (fragments : List String) : BlockStore :=
  fragments.foldl (fun s f => (s.styleFor b f).2) s

/-- What asking a block for the styles of fragments leads to. -/
structure MadeStyles (s s' : BlockStore) (b : BlockId) (fragments : List String) : Prop where
  length_blocks : s'.blocks.length = s.blocks.length
  block_of_ne : ∀ {b'}, b ≠ b' → s'.block b' = s.block b'
  source : (s'.block b).source = (s.block b).source
  exists_style_iff : ∀ f, (∃ i, Entries.get? (s'.block b).styles f = some i) ↔
    f ∈ fragments ∨ ∃ i, Entries.get? (s.block b).styles f = some i
  wellFormed : s'.WellFormed

theorem madeStyles_makeStyles (h : s.WellFormed) (hb : b.index < s.blocks.length)
    (fragments : List String) : MadeStyles s (s.makeStyles b fragments) b fragments := by
  induction fragments generalizing s with
  | nil => exact ⟨rfl, fun _ => rfl, rfl, fun f => by simp [makeStyles], h⟩
  | cons f fragments ih =>
    have hlen : (s.styleFor b f).2.blocks.length = s.blocks.length := length_blocks_styleFor
    have hrest := ih (h.styleFor (f := f) hb) (hlen ▸ hb)
    refine ⟨hrest.length_blocks.trans hlen, fun hne => ?_, ?_, fun f' => ?_, hrest.wellFormed⟩
    · exact (hrest.block_of_ne hne).trans (block_styleFor_of_ne hb hne)
    · exact hrest.source.trans (source_styleFor hb)
    · rw [show makeStyles s b (f :: fragments) = (s.styleFor b f).2.makeStyles b fragments from rfl,
        hrest.exists_style_iff, get?_styleFor hb, List.mem_cons]
      by_cases hf : f = f'
      · simp [hf]
      · simp [hf, Ne.symm hf]

/-! ## Twins -/

/-- Every style is the one that its block knows of for its fragment, so none has a twin. -/
def NoTwins (s : BlockStore) : Prop :=
  ∀ i : StyleId, i.index < s.styles.length →
    Entries.get? (s.block (s.style i).owner).styles (s.style i).fragment = some i

theorem noTwins_empty : empty.NoTwins := fun i hi => absurd hi (Nat.not_lt_zero i.index)

theorem NoTwins.eq (h : s.NoTwins) {i j : StyleId} (hi : i.index < s.styles.length)
    (hj : j.index < s.styles.length) (howner : (s.style i).owner = (s.style j).owner)
    (hfragment : (s.style i).fragment = (s.style j).fragment) : i = j := by
  have hi' := h i hi
  rw [howner, hfragment, h j hj] at hi'
  exact (Option.some.inj hi').symm

theorem NoTwins.addBlock (h : s.NoTwins) (source : String) (reportsAsGiven : Bool) :
    (s.addBlock source reportsAsGiven).2.NoTwins := by
  intro i hi
  have hknown := h i hi
  show Entries.get? ((s.addBlock source reportsAsGiven).2.block (s.style i).owner).styles
    (s.style i).fragment = some i
  rw [block_addBlock]
  split
  · next hnew =>
    -- There was no such block before, so it knew of no style.
    have hold : s.blocks[(s.style i).owner.index]? = none := by
      rw [hnew]
      exact List.getElem?_eq_none (Nat.le_refl _)
    rw [block, hold] at hknown
    cases hknown
  · exact hknown

theorem NoTwins.styleFor (h : s.NoTwins) (hb : b.index < s.blocks.length) :
    (s.styleFor b f).2.NoTwins := by
  rcases styleFor_cases s b f with ⟨i, -, heq⟩ | ⟨hnone, heq⟩
  · rw [heq]
    exact h
  · intro i hi
    have hstyles : (s.styleFor b f).2.styles = s.styles ++ [⟨b, f⟩] := by rw [heq]; rfl
    rw [hstyles, List.length_append] at hi
    rcases Nat.lt_or_ge i.index s.styles.length with hlt | hge
    · have hstyle : (s.styleFor b f).2.style i = s.style i := by
        unfold style
        rw [hstyles, List.getElem?_append_left hlt]
      have hknown := h i hlt
      rw [hstyle]
      by_cases hbb : b = (s.style i).owner
      · have hff : f ≠ (s.style i).fragment := by
          intro hff
          rw [← hbb, ← hff, hnone] at hknown
          cases hknown
        rw [← hbb, get?_styleFor hb, if_neg hff, hbb]
        exact hknown
      · rw [block_styleFor_of_ne hb hbb]
        exact hknown
    · have hindex : i.index = s.styles.length := Nat.le_antisymm (Nat.lt_succ_iff.1 hi) hge
      have hstyle : (s.styleFor b f).2.style i = ⟨b, f⟩ := by
        unfold style
        rw [hstyles, hindex, List.getElem?_concat_length]
        rfl
      rw [hstyle, get?_styleFor hb, if_pos rfl, heq, ← hindex]

theorem NoTwins.makeStyles (h : s.NoTwins) (hb : b.index < s.blocks.length)
    (fragments : List String) : (s.makeStyles b fragments).NoTwins := by
  induction fragments generalizing s with
  | nil => exact h
  | cons f fragments ih =>
    have hlen : (s.styleFor b f).2.blocks.length = s.blocks.length := length_blocks_styleFor
    exact ih (h.styleFor hb) (hlen ▸ hb)

/-! ## Dependencies -/

/-- A table that is made of the items of a list, each under a key for its place, has the items at
their places. -/
theorem get?_mapIdx {κ α γ : Type} [DecidableEq κ] {key : Nat → κ} {f : Nat → α → γ}
    (hkey : Function.Injective key) (xs : List α) (i : Nat) :
    Entries.get? (xs.mapIdx fun i x => (key i, f i x)) (key i) = xs[i]?.map (f i) := by
  induction xs generalizing key f i with
  | nil => rfl
  | cons x xs ih =>
    rw [List.mapIdx_cons, Entries.get?]
    cases i with
    | zero => exact if_pos rfl
    | succ i =>
      have hne : key 0 ≠ key (i + 1) := fun h => Nat.succ_ne_zero i (hkey h).symm
      have hsucc : Function.Injective fun i => key (i + 1) := fun i j h => Nat.succ.inj (hkey h)
      rw [if_neg hne, List.getElem?_cons_succ]
      exact ih hsucc i

theorem injective_blockId : Function.Injective BlockId.mk := fun _ _ => BlockId.mk.inj

theorem direct_declared : s.declared.direct b = (s.block b).dependencies := by
  unfold Dependencies.direct declared block
  rw [get?_mapIdx injective_blockId s.blocks b.index]
  cases s.blocks[b.index]? <;> rfl

theorem direct_reports_catalog :
    s.catalog.reports.direct b = if b.index < s.blocks.length then s.reported b else [] := by
  unfold Dependencies.direct catalog
  rw [get?_mapIdx injective_blockId (f := fun i _ => s.reported ⟨i⟩) s.blocks b.index]
  by_cases hb : b.index < s.blocks.length
  · rw [if_pos hb, List.getElem?_eq_getElem hb]
    rfl
  · rw [if_neg hb, List.getElem?_eq_none (Nat.le_of_not_lt hb)]
    rfl

end StyleUsage.BlockStore
