import StyleUsage.Proofs.Analysis.Step

/-!
# Coherence

The found styles of an analysis cover its other parts: the dynamic styles, the members of the
correlations and the pending styles. Together with the local names, none of which is bound twice,
this is the invariant of a walk (`coherent_step`), so it holds of every analysis that steps lead to
(`coherent_run`).
-/

namespace StyleUsage.Analysis

variable {β σ : Type}

/-- The parts of an analysis agree with each other. -/
structure Coherent (a : Analysis β σ) : Prop where
  /-- No local name is bound twice. -/
  names_nodup : (Entries.keys a.bindings).Nodup
  dynamic_found : ∀ x ∈ a.dynamic, x ∈ a.found
  correlation_found : ∀ c ∈ a.correlations, ∀ x ∈ c, x ∈ a.found
  pending_found : ∀ set, a.scope.pending = some set → ∀ x ∈ set, x ∈ a.found

theorem coherent_begin (t : TemplateInfo) : (begin t : Analysis β σ).Coherent where
  names_nodup := List.nodup_nil
  dynamic_found x hx := by cases hx
  correlation_found c hc := by cases hc
  pending_found set h := by cases h

theorem Coherent.bind {a : Analysis β σ} (h : a.Coherent) (name : String) (block : β) :
    (a.bind name block).Coherent where
  names_nodup := Entries.nodup_keys_put h.names_nodup name block
  dynamic_found := h.dynamic_found
  correlation_found := h.correlation_found
  pending_found := h.pending_found

variable [DecidableEq σ] {a a' : Analysis β σ}

theorem Coherent.addStyle (h : a.Coherent) (x : σ) : (a.addStyle x).Coherent where
  names_nodup := h.names_nodup
  dynamic_found y hy := OrderedSet.mem_insert.2 (.inl (h.dynamic_found y hy))
  correlation_found c hc y hy := OrderedSet.mem_insert.2 (.inl (h.correlation_found c hc y hy))
  pending_found set hset y hy := by
    change some ((a.scope.pending.getD ∅).insert x) = some set at hset
    cases hset
    rcases OrderedSet.mem_insert.1 hy with hy | rfl
    · cases hp : a.scope.pending with
      | none => rw [hp] at hy; cases hy
      | some old =>
        rw [hp] at hy
        exact OrderedSet.mem_insert.2 (.inl (h.pending_found old hp y hy))
    · exact OrderedSet.mem_insert.2 (.inr rfl)

omit [DecidableEq σ] in
theorem Coherent.endElement (h : a.Coherent) : a.endElement.Coherent where
  names_nodup := h.names_nodup
  dynamic_found := h.dynamic_found
  correlation_found c hc y hy := by
    change c ∈ a.correlations ++ a.scope.commit.1.toList at hc
    rcases List.mem_append.1 hc with hc | hc
    · exact h.correlation_found c hc y hy
    · unfold Scope.commit at hc
      by_cases hs : a.scope.holdsStyles = true
      · rw [if_pos hs] at hc
        exact h.pending_found c (Option.mem_toList.1 hc) y hy
      · rw [if_neg hs] at hc
        cases hc
  pending_found set hset := by cases hset

theorem coherent_step {s : WalkStep β σ} (h : a.Coherent) (hs : a.step s = .ok a') :
    a'.Coherent := by
  rcases step_cases hs with ⟨name, block, -, rfl⟩ | ⟨-, -, rfl⟩ | ⟨x, -, rfl⟩ | ⟨x, -, hx, rfl⟩ |
    ⟨-, rfl⟩
  · exact h.bind name block
  · exact ⟨h.names_nodup, h.dynamic_found, h.correlation_found, fun _ h' => by cases h'⟩
  · exact h.addStyle x
  · refine ⟨h.names_nodup, fun y hy => ?_, h.correlation_found, h.pending_found⟩
    rcases OrderedSet.mem_insert.1 hy with hy | rfl
    · exact h.dynamic_found y hy
    · exact hx
  · exact h.endElement

theorem coherent_run (t : TemplateInfo) (steps : List (WalkStep β σ)) :
    ((begin t : Analysis β σ).run steps).Coherent :=
  run_preserves coherent_step (coherent_begin t) steps

theorem template_run (a : Analysis β σ) (steps : List (WalkStep β σ)) :
    (a.run steps).template = a.template := by
  apply run_preserves (P := fun a' => a'.template = a.template) ?_ rfl
  intro a₁ a₂ s h hs
  rcases step_cases hs with ⟨_, _, -, rfl⟩ | ⟨-, -, rfl⟩ | ⟨_, -, rfl⟩ | ⟨_, -, -, rfl⟩ |
    ⟨-, rfl⟩ <;> exact h

end StyleUsage.Analysis
