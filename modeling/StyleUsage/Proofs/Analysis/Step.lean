import StyleUsage.Analysis.Basic

/-!
# Steps and runs

What one step can do and when it fails (`step_cases`, `step_error_iff`), and what a run inherits
from its steps (`run_preserves`). The steps that a run does not pass over are `performed`; a run in
which no step fails performs them all.
-/

namespace StyleUsage

namespace Scope

variable {σ : Type} {s : Scope σ}

theorem holdsStyles_iff : s.holdsStyles = true ↔ ∃ set, s.pending = some set ∧ set.toList ≠ [] := by
  unfold holdsStyles
  cases s.pending with
  | none => simp
  | some set => simp [OrderedSet.isEmpty]

theorem commit_toList : s.commit.1.toList.map OrderedSet.toList =
    (s.pending.toList.map OrderedSet.toList).filter (· ≠ []) := by
  obtain ⟨o, p⟩ := s
  cases p with
  | none => rfl
  | some set =>
    unfold commit holdsStyles OrderedSet.isEmpty
    cases h : set.toList with
    | nil => simp [h]
    | cons x xs => simp [h]

end Scope

namespace Analysis

variable {β σ : Type} [DecidableEq σ] {a a' : Analysis β σ} {s : WalkStep β σ}

/-! ## One step -/

omit [DecidableEq σ] in
theorem startElement_eq (h : a.scope.holdsStyles = false) :
    a.startElement = .ok { a with scope := ⟨true, none⟩ } := by
  unfold startElement Scope.start
  rw [h]
  rfl

/-- Everything that a step can do. -/
theorem step_cases (h : a.step s = .ok a') :
    (∃ name block, s = .bind name block ∧ a' = a.bind name block) ∨
    (s = .start ∧ a.scope.holdsStyles = false ∧ a' = { a with scope := ⟨true, none⟩ }) ∨
    (∃ x, s = .add x ∧ a' = a.addStyle x) ∨
    (∃ x, s = .mark x ∧ x ∈ a.found ∧ a' = { a with dynamic := a.dynamic.insert x }) ∨
    (s = .finish ∧ a' = a.endElement) := by
  cases s with
  | bind name block =>
    cases h
    exact .inl ⟨name, block, rfl, rfl⟩
  | start =>
    change a.startElement = .ok a' at h
    unfold startElement Scope.start at h
    cases hs : a.scope.holdsStyles with
    | true => rw [hs] at h; cases h
    | false =>
      rw [hs] at h
      cases h
      exact .inr (.inl ⟨rfl, rfl, rfl⟩)
  | add x =>
    cases h
    exact .inr (.inr (.inl ⟨x, rfl, rfl⟩))
  | mark x =>
    change a.markDynamic x = .ok a' at h
    unfold markDynamic at h
    by_cases hx : x ∈ a.found
    · rw [if_pos hx] at h
      cases h
      exact .inr (.inr (.inr (.inl ⟨x, rfl, hx, rfl⟩)))
    · rw [if_neg hx] at h
      cases h
  | finish =>
    cases h
    exact .inr (.inr (.inr (.inr ⟨rfl, rfl⟩)))

/-- A step fails if it starts an element while styles are pending, or marks a style that was not
added, and in no other case. -/
theorem step_error_iff {e : ProtocolError} : a.step s = .error e ↔
    (s = .start ∧ a.scope.holdsStyles = true ∧ e = .uncommittedStyles) ∨
    (∃ x, s = .mark x ∧ x ∉ a.found ∧ e = .notYetAdded) := by
  cases s with
  | bind name block => simp [step]
  | start =>
    change a.startElement = .error e ↔ _
    unfold startElement Scope.start
    cases a.scope.holdsStyles with
    | true => simp [Except.map, @eq_comm _ e]
    | false => simp [Except.map]
  | add x => simp [step]
  | mark x =>
    change a.markDynamic x = .error e ↔ _
    unfold markDynamic
    by_cases hx : x ∈ a.found
    · simp [hx]
    · simp [hx, @eq_comm _ e]
  | finish => simp [step]

theorem stepOrStay_of_ok (h : a.step s = .ok a') : a.stepOrStay s = a' := by
  unfold stepOrStay; rw [h]

theorem stepOrStay_of_error {e : ProtocolError} (h : a.step s = .error e) :
    a.stepOrStay s = a := by
  unfold stepOrStay; rw [h]

@[simp] theorem stepOrStay_bind (name : String) (block : β) :
    a.stepOrStay (.bind name block) = a.bind name block := rfl

@[simp] theorem stepOrStay_add (x : σ) : a.stepOrStay (.add x) = a.addStyle x := rfl

@[simp] theorem stepOrStay_finish : a.stepOrStay .finish = a.endElement := rfl

theorem stepOrStay_start : a.stepOrStay .start =
    if a.scope.holdsStyles = true then a else { a with scope := ⟨true, none⟩ } := by
  cases hs : a.scope.holdsStyles with
  | true =>
    have herror : a.step .start = .error .uncommittedStyles :=
      step_error_iff.2 (.inl ⟨rfl, hs, rfl⟩)
    rw [stepOrStay_of_error herror, if_pos rfl]
  | false =>
    have hok : a.step .start = .ok { a with scope := ⟨true, none⟩ } := startElement_eq hs
    rw [stepOrStay_of_ok hok, if_neg Bool.false_ne_true]

theorem stepOrStay_mark (x : σ) : a.stepOrStay (.mark x) =
    if x ∈ a.found then { a with dynamic := a.dynamic.insert x } else a := by
  by_cases hx : x ∈ a.found
  · have hok : a.step (.mark x) = .ok { a with dynamic := a.dynamic.insert x } := if_pos hx
    rw [stepOrStay_of_ok hok, if_pos hx]
  · have herror : a.step (.mark x) = .error .notYetAdded := if_neg hx
    rw [stepOrStay_of_error herror, if_neg hx]

/-! ## Runs -/

@[simp] theorem run_nil : a.run [] = a := rfl

theorem run_cons {steps : List (WalkStep β σ)} :
    a.run (s :: steps) = (a.stepOrStay s).run steps := rfl

theorem run_concat {steps : List (WalkStep β σ)} :
    a.run (steps ++ [s]) = (a.run steps).stepOrStay s := by
  unfold run
  rw [List.foldl_append]
  rfl

/-- What every step preserves, a run preserves. -/
theorem run_preserves {P : Analysis β σ → Prop}
    (hstep : ∀ {a a' s}, P a → a.step s = .ok a' → P a') (h : P a) (steps : List (WalkStep β σ)) :
    P (a.run steps) := by
  induction steps generalizing a with
  | nil => exact h
  | cons s steps ih =>
    rw [run_cons]
    cases hs : a.step s with
    | ok a' => rw [stepOrStay_of_ok hs]; exact ih (hstep h hs)
    | error e => rw [stepOrStay_of_error hs]; exact ih h

theorem runAll_cons {steps : List (WalkStep β σ)} (h : a.runAll (s :: steps) = .ok a') :
    ∃ a₁, a.step s = .ok a₁ ∧ a₁.runAll steps = .ok a' := by
  unfold runAll at h
  rw [List.foldlM_cons] at h
  cases hs : a.step s with
  | ok a₁ => rw [hs] at h; exact ⟨a₁, rfl, h⟩
  | error e => rw [hs] at h; cases h

theorem runAll_append (a : Analysis β σ) (steps more : List (WalkStep β σ)) :
    a.runAll (steps ++ more) = a.runAll steps >>= fun a' => a'.runAll more :=
  List.foldlM_append

theorem runAll_flatMap {ι : Type} (f : ι → List (WalkStep β σ)) : ∀ (items : List ι)
    (a : Analysis β σ), a.runAll (items.flatMap f) = items.foldlM (fun a i => a.runAll (f i)) a
  | [], _ => rfl
  | i :: items, a => by
    rw [List.flatMap_cons, runAll_append, List.foldlM_cons]
    exact bind_congr fun a' => runAll_flatMap f items a'

theorem runAll_map {ι : Type} (f : ι → WalkStep β σ) (items : List ι) (a : Analysis β σ) :
    a.runAll (items.map f) = items.foldlM (fun a i => a.step (f i)) a :=
  List.foldlM_map ..

theorem run_of_runAll {steps : List (WalkStep β σ)} (h : a.runAll steps = .ok a') :
    a.run steps = a' := by
  induction steps generalizing a with
  | nil => cases h; rfl
  | cons s steps ih =>
    obtain ⟨a₁, hs, hrest⟩ := runAll_cons h
    rw [run_cons, stepOrStay_of_ok hs]
    exact ih hrest

theorem mem_dynamic_step (h : a.step s = .ok a') {x : σ} :
    x ∈ a'.dynamic ↔ x ∈ a.dynamic ∨ s = .mark x := by
  rcases step_cases h with ⟨_, _, rfl, rfl⟩ | ⟨rfl, -, rfl⟩ | ⟨_, rfl, rfl⟩ | ⟨y, rfl, -, rfl⟩ |
    ⟨rfl, rfl⟩
  · simp [bind]
  · simp
  · simp [addStyle]
  · rw [WalkStep.mark.injEq, eq_comm (a := y)]
    exact OrderedSet.mem_insert
  · simp [endElement]

theorem mem_dynamic_runAll {steps : List (WalkStep β σ)} (h : a.runAll steps = .ok a') {x : σ} :
    x ∈ a'.dynamic ↔ x ∈ a.dynamic ∨ .mark x ∈ steps := by
  induction steps generalizing a with
  | nil => cases h; simp
  | cons s steps ih =>
    obtain ⟨a₁, hs, hrest⟩ := runAll_cons h
    rw [ih hrest, mem_dynamic_step hs, List.mem_cons, or_assoc, eq_comm (a := s)]

/-- The steps of a run that do not fail. -/
def performed (a : Analysis β σ) : List (WalkStep β σ) → List (WalkStep β σ)
  | [] => []
  | s :: rest =>
    match a.step s with
    | .ok a' => s :: a'.performed rest
    | .error _ => a.performed rest

theorem performed_cons_of_ok {rest : List (WalkStep β σ)} (h : a.step s = .ok a') :
    a.performed (s :: rest) = s :: a'.performed rest := by
  rw [performed, h]

theorem performed_cons_of_error {rest : List (WalkStep β σ)} {e : ProtocolError}
    (h : a.step s = .error e) : a.performed (s :: rest) = a.performed rest := by
  rw [performed, h]

theorem performed_append (a : Analysis β σ) (steps more : List (WalkStep β σ)) :
    a.performed (steps ++ more) = a.performed steps ++ (a.run steps).performed more := by
  induction steps generalizing a with
  | nil => rfl
  | cons t steps ih =>
    rw [List.cons_append, run_cons]
    cases ht : a.step t with
    | ok a₁ =>
      rw [stepOrStay_of_ok ht, performed_cons_of_ok ht, performed_cons_of_ok ht, ih]
      rfl
    | error e =>
      rw [stepOrStay_of_error ht, performed_cons_of_error ht, performed_cons_of_error ht, ih]

end Analysis

end StyleUsage
