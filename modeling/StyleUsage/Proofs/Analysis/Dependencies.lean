import StyleUsage.Analysis.Basic
import StyleUsage.Proofs.Block.Reachable
import StyleUsage.Proofs.Block.Store

/-!
# The blocks that an analysis depends on

The dependencies of an analysis are the bound blocks and what they lead to by reports, whatever the
blocks report (`transitiveBlockDependencies_reaches`). Where each block reports all the blocks below
it (`Catalog.ReportsBelow`), reports lead to just what declared dependencies lead to
(`ReportsBelow.reaches_iff`), so that the order of bindings and of dependencies does not matter.
-/

namespace StyleUsage

open Relation Dependencies

variable {β σ : Type} [DecidableEq β]

/-- Every block reports the blocks below it. -/
def Catalog.ReportsBelow (c : Catalog β σ) (declared : Dependencies β) : Prop :=
  ∀ b, c.reports.direct b = (declared.below b).toList

theorem BlockStore.reportsBelow {s : BlockStore} (h : ∀ x ∈ s.blocks, x.reportsAsGiven = false) :
    s.catalog.ReportsBelow s.declared := by
  intro b
  rw [direct_reports_catalog]
  by_cases hb : b.index < s.blocks.length
  · have hblock : s.block b = s.blocks[b.index] := by
      unfold block
      rw [List.getElem?_eq_getElem hb]
      rfl
    have hgiven : (s.block b).reportsAsGiven = false := hblock ▸ h _ (List.getElem_mem hb)
    rw [if_pos hb]
    exact if_neg (ne_true_of_eq_false hgiven)
  · -- A handle that no block has reports nothing, and nothing is below it.
    have hdirect : s.declared.direct b = [] := by
      rw [direct_declared]
      unfold block
      rw [List.getElem?_eq_none (Nat.le_of_not_lt hb)]
      rfl
    rw [if_neg hb]
    unfold below
    rw [hdirect, List.reverse_nil, visit]
    rfl

namespace Catalog.ReportsBelow

variable {c : Catalog β σ} {declared : Dependencies β}

theorem dependsOn_eq (h : c.ReportsBelow declared) :
    c.reports.DependsOn = TransGen declared.DependsOn := by
  funext b d
  unfold Dependencies.DependsOn
  rw [h b]
  exact propext mem_below_iff

/-- Reports lead to what declared dependencies lead to. -/
theorem reaches_iff (h : c.ReportsBelow declared) {blocks : List β} {x : β} :
    c.reports.Reaches blocks x ↔ declared.Reaches blocks x := by
  unfold Reaches
  rw [h.dependsOn_eq, reflTransGen_transGen]

end Catalog.ReportsBelow

namespace Analysis

variable (c : Catalog β σ) {a : Analysis β σ}

theorem mem_transitiveBlockDependencies {x : β} :
    x ∈ a.transitiveBlockDependencies c ↔ c.reports.Reaches a.referencedBlocks x :=
  mem_closure_iff

/-- **Dependencies of an analysis.** Whatever the blocks report and whatever is bound, the loop that
starts with the bound blocks ends, after one pass for each block of its result. Its result lists
each block once, and these are the blocks that the bound ones lead to by reports. If each block
reports all the blocks below it, they are the blocks that the bound ones lead to by declared
dependencies, and another order of the bindings or of the dependencies only leads to another order
of the result. -/
theorem transitiveBlockDependencies_reaches (c : Catalog β σ) (a : Analysis β σ) :
    let result := a.transitiveBlockDependencies c
    c.reports.spreadPass^[result.size]
        (a.blockDependencies, a.blockDependencies.toList.reverse) = (result, []) ∧
      result.toList.Nodup ∧
      (∀ x, x ∈ result.toList ↔
        ∃ b ∈ a.referencedBlocks, ReflTransGen c.reports.DependsOn b x) ∧
      ∀ declared : Dependencies β, c.ReportsBelow declared →
        (∀ x, x ∈ result.toList ↔
          ∃ b ∈ a.referencedBlocks, ReflTransGen declared.DependsOn b x) ∧
        ∀ (c' : Catalog β σ) (a' : Analysis β σ) (declared' : Dependencies β),
          c'.ReportsBelow declared' →
          (∀ b d, declared'.DependsOn b d ↔ declared.DependsOn b d) →
          (∀ b, b ∈ a'.referencedBlocks ↔ b ∈ a.referencedBlocks) →
          (a'.transitiveBlockDependencies c').toList.Perm result.toList := by
  intro result
  refine ⟨iterate_closure c.reports a.referencedBlocks, result.nodup,
    fun _ => mem_transitiveBlockDependencies c, fun declared h => ⟨fun x => ?_, ?_⟩⟩
  · exact (mem_transitiveBlockDependencies c).trans h.reaches_iff
  · intro c' a' declared' h' hdeclared hbound
    have hdepends : declared'.DependsOn = declared.DependsOn :=
      funext₂ fun b d => propext (hdeclared b d)
    apply OrderedSet.perm_of_mem_iff
    intro x
    rw [mem_transitiveBlockDependencies, mem_transitiveBlockDependencies, h'.reaches_iff,
      h.reaches_iff]
    unfold Reaches
    simp only [hdepends, hbound]

/-- Three blocks on a cycle, one of them bound under two names and one that depends on itself,
beside a block that is not bound; in the second store dependencies are listed in another order and
more than once. -/
theorem transitiveBlockDependencies_reaches_cycle :
    let s : BlockStore := ⟨[⟨"one", [⟨1⟩], false, []⟩, ⟨"two", [⟨0⟩, ⟨2⟩], false, []⟩,
      ⟨"three", [⟨2⟩, ⟨0⟩], false, []⟩, ⟨"four", [⟨0⟩], false, []⟩], []⟩
    let s' : BlockStore := ⟨[⟨"one", [⟨1⟩, ⟨1⟩], false, []⟩, ⟨"two", [⟨2⟩, ⟨0⟩], false, []⟩,
      ⟨"three", [⟨0⟩, ⟨2⟩, ⟨0⟩], false, []⟩, ⟨"four", [⟨0⟩], false, []⟩], []⟩
    let a : Analysis BlockId StyleId :=
      (((begin ⟨.base, .str "page", []⟩).bind "a" ⟨0⟩).bind "b" ⟨2⟩).bind "c" ⟨0⟩
    let a' : Analysis BlockId StyleId :=
      ((begin ⟨.base, .str "page", []⟩).bind "b" ⟨2⟩).bind "a" ⟨0⟩
    (s.catalog.ReportsBelow s.declared ∧ s'.catalog.ReportsBelow s'.declared ∧
      (∀ b d, s'.declared.DependsOn b d ↔ s.declared.DependsOn b d) ∧
      ∀ b, b ∈ a'.referencedBlocks ↔ b ∈ a.referencedBlocks) ∧
    (∀ x, x ∈ (a.transitiveBlockDependencies s.catalog).toList ↔
      ∃ b ∈ a.referencedBlocks, ReflTransGen s.declared.DependsOn b x) ∧
    (a'.transitiveBlockDependencies s'.catalog).toList.Perm
      (a.transitiveBlockDependencies s.catalog).toList := by
  intro s s' a a'
  have h : s.catalog.ReportsBelow s.declared := BlockStore.reportsBelow (by decide)
  have h' : s'.catalog.ReportsBelow s'.declared := BlockStore.reportsBelow (by decide)
  have hdeclared : ∀ b d, s'.declared.DependsOn b d ↔ s.declared.DependsOn b d := by
    rintro ⟨i⟩ d
    unfold Dependencies.DependsOn
    rw [BlockStore.direct_declared, BlockStore.direct_declared]
    rcases i with _ | _ | _ | _ | i <;> simp [s, s', BlockStore.block, or_comm]
  have hbound : ∀ b, b ∈ a'.referencedBlocks ↔ b ∈ a.referencedBlocks := by
    intro b
    simp [a, a', bind, begin, referencedBlocks, Entries.put, Entries.values, or_comm]
  obtain ⟨-, -, -, hsources⟩ := transitiveBlockDependencies_reaches s.catalog a
  obtain ⟨hmem, hperm⟩ := hsources s.declared h
  exact ⟨⟨h, h', hdeclared, hbound⟩, hmem, hperm s'.catalog a' s'.declared h' hdeclared hbound⟩

end Analysis

end StyleUsage
