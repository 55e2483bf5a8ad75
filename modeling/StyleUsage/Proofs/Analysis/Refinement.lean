import StyleUsage.Proofs.Analysis.Coherence
import StyleUsage.Proofs.Analysis.Trace
import StyleUsage.Proofs.Collection.Entries

/-!
# Analyses and the traces behind them

Every part of an analysis is a function of the trace that led to it, by induction on the trace from
its end. `analysis_of_trace` puts the parts together.
-/

namespace StyleUsage.Analysis

open Trace

variable {β σ : Type} [DecidableEq σ] (template : TemplateInfo) (t : Trace β σ)

/-! ## What a step leaves as it was -/

section Frame

variable {a : Analysis β σ} {s : WalkStep β σ}

theorem found_stepOrStay (hs : s.added? = none) : (a.stepOrStay s).found = a.found := by
  cases s with
  | add x => cases hs
  | start => rw [stepOrStay_start, apply_ite Analysis.found, ite_self]
  | mark x => rw [stepOrStay_mark, apply_ite Analysis.found, ite_self]
  | bind name block => rfl
  | finish => rfl

theorem dynamic_stepOrStay (hs : ∀ x, s ≠ .mark x) : (a.stepOrStay s).dynamic = a.dynamic := by
  cases s with
  | mark x => exact absurd rfl (hs x)
  | start => rw [stepOrStay_start, apply_ite Analysis.dynamic, ite_self]
  | bind name block => rfl
  | add x => rfl
  | finish => rfl

theorem bindings_stepOrStay (hs : s.bound? = none) : (a.stepOrStay s).bindings = a.bindings := by
  cases s with
  | bind name block => cases hs
  | start => rw [stepOrStay_start, apply_ite Analysis.bindings, ite_self]
  | mark x => rw [stepOrStay_mark, apply_ite Analysis.bindings, ite_self]
  | add x => rfl
  | finish => rfl

theorem correlations_stepOrStay (hs : s.isFinish = false) :
    (a.stepOrStay s).correlations = a.correlations := by
  cases s with
  | finish => cases hs
  | start => rw [stepOrStay_start, apply_ite Analysis.correlations, ite_self]
  | mark x => rw [stepOrStay_mark, apply_ite Analysis.correlations, ite_self]
  | bind name block => rfl
  | add x => rfl

theorem scope_stepOrStay_mark (x : σ) : (a.stepOrStay (.mark x)).scope = a.scope := by
  rw [stepOrStay_mark, apply_ite Analysis.scope, ite_self]

end Frame

/-! ## The parts of an analysis -/

/-- The found styles are the added ones, each once. -/
theorem found_run : ((begin template).run t).found.toList = (added t).eraseDups := by
  induction t using List.reverseRecOn with
  | nil => rfl
  | append_singleton t s ih =>
    rw [run_concat]
    cases s with
    | add x => rw [stepOrStay_add, added_concat]; exact OrderedSet.toList_insert_of_eq ih x
    | _ => rw [found_stepOrStay rfl, added_concat_of_none rfl]; exact ih

theorem mem_found_run {x : σ} : x ∈ ((begin template).run t).found ↔ x ∈ added t := by
  rw [OrderedSet.mem_def, found_run, List.mem_eraseDups]

/-- The dynamic styles are those that were marked after they were added, each once. -/
theorem dynamic_run : ((begin template).run t).dynamic.toList = (marked t).eraseDups := by
  induction t using List.reverseRecOn with
  | nil => rfl
  | append_singleton t s ih =>
    rw [run_concat]
    cases s with
    | mark x =>
      rw [stepOrStay_mark, marked_concat_mark]
      by_cases hx : x ∈ added t
      · rw [if_pos ((mem_found_run template t).2 hx), if_pos hx]
        exact OrderedSet.toList_insert_of_eq ih x
      · rw [if_neg (fun h => hx ((mem_found_run template t).1 h)), if_neg hx, List.append_nil]
        exact ih
    | _ => rw [dynamic_stepOrStay (by simp), marked_concat (by simp)]; exact ih

theorem bindings_run : ((begin template).run t).bindings = Entries.ofPairs (bound t) := by
  induction t using List.reverseRecOn with
  | nil => rfl
  | append_singleton t s ih =>
    rw [run_concat]
    cases s with
    | bind name block =>
      rw [stepOrStay_bind, bound_concat]
      show Entries.put _ name block = Entries.ofPairs (bound t ++ [(name, block)])
      rw [Entries.ofPairs_concat, ih]
    | _ => rw [bindings_stepOrStay rfl, bound_concat_of_none rfl]; exact ih

/-- Every bound local name is there once, in the order of first binding. -/
theorem names_run : Entries.keys ((begin template).run t).bindings =
    ((bound t).map Prod.fst).eraseDups := by
  rw [bindings_run, Entries.keys_ofPairs]

theorem block_run (name : String) :
    Entries.get? ((begin template).run t).bindings name = lastBound? t name := by
  rw [bindings_run, Entries.get?_ofPairs]
  rfl

/-- Either no style is pending, or the set of the pending styles lists those of the segment. -/
theorem pending_cases {pending : Option (OrderedSet σ)} {xs : List σ}
    (h : pending.map OrderedSet.toList = if xs = [] then none else some xs.eraseDups) :
    (xs = [] ∧ pending = none) ∨
      (xs ≠ [] ∧ ∃ set, pending = some set ∧ set.toList = xs.eraseDups) := by
  by_cases hx : xs = []
  · rw [if_pos hx, Option.map_eq_none_iff] at h
    exact .inl ⟨hx, h⟩
  · rw [if_neg hx, Option.map_eq_some_iff] at h
    exact .inr ⟨hx, h⟩

/-- Whether styles are pending shows in the unfinished segment. -/
theorem holdsStyles_iff_of_pending {sc : Scope σ} {xs : List σ}
    (h : sc.pending.map OrderedSet.toList = if xs = [] then none else some xs.eraseDups) :
    sc.holdsStyles = true ↔ xs ≠ [] := by
  rw [Scope.holdsStyles_iff]
  rcases pending_cases h with ⟨rfl, hp⟩ | ⟨hx, set, hp, hl⟩
  · simp [hp]
  · exact ⟨fun _ => hx, fun _ => ⟨set, hp, hl ▸ eraseDups_ne_nil hx⟩⟩

/-- The pending styles are those of the unfinished segment, each once. -/
theorem pending_run : ((begin template).run t).scope.pending.map OrderedSet.toList =
    if unfinished t = [] then none else some (unfinished t).eraseDups := by
  induction t using List.reverseRecOn with
  | nil => rfl
  | append_singleton t s ih =>
    rw [run_concat]
    cases s with
    | add x =>
      rw [stepOrStay_add, unfinished_concat rfl]
      show some ((((begin template).run t).scope.pending.getD ∅).insert x).toList =
        if unfinished t ++ [x] = [] then none else some (unfinished t ++ [x]).eraseDups
      rw [if_neg (by simp)]
      rcases pending_cases ih with ⟨hnil, hp⟩ | ⟨-, set, hp, hl⟩
      · rw [hp, hnil]
        rfl
      · rw [hp]
        exact congrArg some (OrderedSet.toList_insert_of_eq hl x)
    | start =>
      -- With styles pending the step fails; otherwise the segment is empty, as is the new scope.
      rw [stepOrStay_start, unfinished_concat_of_none rfl rfl]
      by_cases h : unfinished t = []
      · rw [if_neg (fun h' => (holdsStyles_iff_of_pending ih).1 h' h), if_pos h]
        rfl
      · rw [if_pos ((holdsStyles_iff_of_pending ih).2 h)]
        exact ih
    | mark x => rw [scope_stepOrStay_mark, unfinished_concat_of_none rfl rfl]; exact ih
    | bind name block => rw [unfinished_concat_of_none rfl rfl]; exact ih
    | finish => rw [unfinished_concat_finish]; rfl

theorem holdsStyles_run :
    ((begin template).run t).scope.holdsStyles = true ↔ unfinished t ≠ [] :=
  holdsStyles_iff_of_pending (pending_run template t)

/-- The correlations are the completed segments that are not empty, each style of one once. -/
theorem correlations_run : ((begin template).run t).correlations.map OrderedSet.toList =
    ((completed t).filter (· ≠ [])).map List.eraseDups := by
  induction t using List.reverseRecOn with
  | nil => rfl
  | append_singleton t s ih =>
    rw [run_concat]
    cases s with
    | finish =>
      rw [stepOrStay_finish, completed_concat_finish, List.filter_append, List.map_append, ← ih]
      show (_ ++ ((begin template).run t).scope.commit.1.toList).map OrderedSet.toList = _
      rw [List.map_append, Scope.commit_toList]
      congr 1
      rcases pending_cases (pending_run template t) with ⟨hnil, hp⟩ | ⟨hx, set, hp, hl⟩
      · rw [hp, hnil]
        rfl
      · have hne : set.toList ≠ [] := hl ▸ eraseDups_ne_nil hx
        rw [hp, List.filter_cons_of_pos (by simpa using hx)]
        show [set.toList].filter (· ≠ []) = _
        rw [List.filter_cons_of_pos (by simpa using hne), hl]
        rfl
    | _ => rw [correlations_stepOrStay rfl, completed_concat rfl]; exact ih

/-- The last step of a run that began an element, added to it or ended it, failing steps aside. -/
def lastOnElement? (template : TemplateInfo) (t : Trace β σ) : Option (WalkStep β σ) :=
  (((begin template).performed t).filter WalkStep.isOnElement).getLast?

theorem lastOnElement?_concat_of_ok {a : Analysis β σ} {s : WalkStep β σ}
    (h : ((begin template).run t).step s = .ok a) : lastOnElement? template (t ++ [s]) =
      if s.isOnElement = true then some s else lastOnElement? template t := by
  unfold lastOnElement?
  rw [performed_append, performed_cons_of_ok h, List.filter_append]
  by_cases hs : s.isOnElement = true
  · rw [if_pos hs, List.filter_cons_of_pos hs]
    exact List.getLast?_concat
  · rw [if_neg hs, List.filter_cons_of_neg hs]
    exact congrArg List.getLast? (List.append_nil _)

theorem lastOnElement?_concat_of_error {e : ProtocolError} {s : WalkStep β σ}
    (h : ((begin template).run t).step s = .error e) :
    lastOnElement? template (t ++ [s]) = lastOnElement? template t := by
  unfold lastOnElement?
  rw [performed_append, performed_cons_of_error h, performed, List.append_nil]

/-- An element is open exactly if the last step on elements that did not fail began one or added to
one. -/
theorem isOpen_run : ((begin template).run t).scope.isOpen = true ↔
    lastOnElement? template t = some .start ∨ ∃ x, lastOnElement? template t = some (.add x) := by
  induction t using List.reverseRecOn with
  | nil => simp [lastOnElement?, performed, begin, Scope.idle]
  | append_singleton t s ih =>
    rw [run_concat]
    cases hs : ((begin template).run t).step s with
    | error e => rw [stepOrStay_of_error hs, lastOnElement?_concat_of_error template t hs]; exact ih
    | ok a =>
      rw [stepOrStay_of_ok hs, lastOnElement?_concat_of_ok template t hs]
      rcases step_cases hs with ⟨name, block, rfl, rfl⟩ | ⟨rfl, -, rfl⟩ | ⟨x, rfl, rfl⟩ |
        ⟨x, rfl, -, rfl⟩ | ⟨rfl, rfl⟩
      · exact ih
      · simp [WalkStep.isOnElement]
      · simp [WalkStep.isOnElement, addStyle, Scope.add]
      · exact ih
      · simp [WalkStep.isOnElement, endElement, Scope.commit, Scope.idle]

/-- A step after a run fails if it starts an element while the unfinished segment has a style, or
marks a style that was not added before, and in no other case. -/
theorem step_run_error_iff {s : WalkStep β σ} {e : ProtocolError} :
    ((begin template).run t).step s = .error e ↔
      (s = .start ∧ unfinished t ≠ [] ∧ e = .uncommittedStyles) ∨
      (∃ x, s = .mark x ∧ x ∉ added t ∧ e = .notYetAdded) := by
  rw [step_error_iff, holdsStyles_run]
  simp only [mem_found_run]

/-- **Analyses and traces.** Whatever steps a walker takes on a fresh analysis, failing ones passed
over, the analysis holds what the trace of the steps tells: the found styles, the correlations, the
pending styles, the dynamic styles, the bindings, whether an element is open, which steps would fail
next, and that all these styles are found ones. -/
theorem analysis_of_trace (template : TemplateInfo) (t : Trace β σ) :
    let a := (begin template).run t
    a.template = template ∧
    a.found.toList = (added t).eraseDups ∧
    a.correlations.map OrderedSet.toList =
      ((completed t).filter (· ≠ [])).map List.eraseDups ∧
    a.scope.pending.map OrderedSet.toList =
      (if unfinished t = [] then none else some (unfinished t).eraseDups) ∧
    a.dynamic.toList = (marked t).eraseDups ∧
    Entries.keys a.bindings = ((bound t).map Prod.fst).eraseDups ∧
    (∀ name, Entries.get? a.bindings name = lastBound? t name) ∧
    (a.scope.isOpen = true ↔
      lastOnElement? template t = some .start ∨ ∃ x, lastOnElement? template t = some (.add x)) ∧
    (∀ s e, a.step s = .error e ↔
      (s = .start ∧ unfinished t ≠ [] ∧ e = .uncommittedStyles) ∨
      (∃ x, s = .mark x ∧ x ∉ added t ∧ e = .notYetAdded)) ∧
    a.Coherent :=
  ⟨template_run _ t, found_run template t, correlations_run template t, pending_run template t,
    dynamic_run template t, names_run template t, block_run template t, isOpen_run template t,
    fun _ _ => step_run_error_iff template t, coherent_run template t⟩

end StyleUsage.Analysis
