import StyleUsage.Analysis.Basic
import Mathlib.Data.List.Basic
import Mathlib.Data.List.Induction

/-!
# Traces

A trace is the list of the steps that a walker takes, failing ones included. What an analysis should
hold after the steps are plain functions of the trace: what is added in all and between two ends of
elements, what is marked after it was added, what is bound. For each of them there is a lemma on a
further step at the end of the trace.
-/

namespace StyleUsage

variable {β σ : Type}

/-- The steps of a walk in order. -/
abbrev Trace (β σ : Type) := List (WalkStep β σ)

namespace WalkStep

def added? : WalkStep β σ → Option σ
  | .add x => some x
  | _ => none

/-- The local name and the block that a step binds. -/
def bound? : WalkStep β σ → Option (String × β)
  | .bind name block => some (name, block)
  | _ => none

/-- Whether a step ends an element. -/
def isFinish : WalkStep β σ → Bool
  | .finish => true
  | _ => false

/-- Whether a step begins an element, adds to it or ends it. -/
def isOnElement : WalkStep β σ → Bool
  | .start | .add _ | .finish => true
  | _ => false

end WalkStep

namespace Trace

/-- The styles that are added, in order and with repetition. -/
def added (t : Trace β σ) : List σ := t.filterMap WalkStep.added?

/-- The styles that are added before the first end of an element, between two ends, and after the
last one. -/
def segments (t : Trace β σ) : List (List σ) := (t.splitOnP WalkStep.isFinish).map added

/-- The segments that an end of an element completes. -/
def completed (t : Trace β σ) : List (List σ) := t.segments.dropLast

/-- The segment that no end of an element completes. -/
def unfinished (t : Trace β σ) : List σ := t.segments.getLastD []

/-- The local names that are bound, in order and with repetition, each with its block. -/
def bound (t : Trace β σ) : List (String × β) := t.filterMap WalkStep.bound?

/-- The block that a local name was bound to last. -/
def lastBound? (t : Trace β σ) (name : String) : Option β := t.bound.reverse.lookup name

/-- The styles that are marked after they were added, when the styles in `before` were added
already. -/
def markedAfter [DecidableEq σ] (before : List σ) : Trace β σ → List σ
  | [] => []
  | .add x :: rest => markedAfter (before ++ [x]) rest
  | .mark x :: rest => (if x ∈ before then [x] else []) ++ markedAfter before rest
  | _ :: rest => markedAfter before rest

/-- The styles that are marked after they were added, in order and with repetition. -/
def marked [DecidableEq σ] (t : Trace β σ) : List σ := markedAfter [] t

theorem added_append (t u : Trace β σ) : added (t ++ u) = added t ++ added u :=
  List.filterMap_append

theorem bound_append (t u : Trace β σ) : bound (t ++ u) = bound t ++ bound u :=
  List.filterMap_append

theorem mem_added {t : Trace β σ} {x : σ} : x ∈ added t ↔ .add x ∈ t := by
  unfold added
  rw [List.mem_filterMap]
  constructor
  · rintro ⟨s, hs, hx⟩
    cases s <;> cases hx
    exact hs
  · exact fun h => ⟨_, h, rfl⟩

theorem added_eq_nil {t : Trace β σ} (h : ∀ s ∈ t, s.added? = none) : added t = [] :=
  List.filterMap_eq_nil_iff.2 h

theorem bound_eq_nil {t : Trace β σ} (h : ∀ s ∈ t, s.bound? = none) : bound t = [] :=
  List.filterMap_eq_nil_iff.2 h

theorem added_map_add (xs : List σ) : added (xs.map .add : Trace β σ) = xs := by
  unfold added
  rw [List.filterMap_map]
  exact List.filterMap_some

/-! ## A step at the end -/

theorem added_concat (t : Trace β σ) (s : WalkStep β σ) :
    added (t ++ [s]) = added t ++ s.added?.toList := by
  rw [added_append]
  unfold added
  cases h : s.added? <;> simp [h]

theorem bound_concat (t : Trace β σ) (s : WalkStep β σ) :
    bound (t ++ [s]) = bound t ++ s.bound?.toList := by
  rw [bound_append]
  unfold bound
  cases h : s.bound? <;> simp [h]

theorem bound_concat_of_none {s : WalkStep β σ} (hs : s.bound? = none) (t : Trace β σ) :
    bound (t ++ [s]) = bound t := by
  rw [bound_concat, hs]
  exact List.append_nil _

/-- A step that does not end the element goes into the last part of a split trace. -/
theorem split_concat {s : WalkStep β σ} (hs : s.isFinish = false) (t : Trace β σ) :
    ∃ init last, t.splitOnP WalkStep.isFinish = init ++ [last] ∧
      (t ++ [s]).splitOnP WalkStep.isFinish = init ++ [last ++ [s]] := by
  induction t with
  | nil => exact ⟨[], [], rfl, List.splitOnP_eq_singleton (by simpa using hs)⟩
  | cons r t ih =>
    obtain ⟨init, last, h, h'⟩ := ih
    rw [List.cons_append, List.splitOnP_cons_eq_if_modifyHead, List.splitOnP_cons_eq_if_modifyHead,
      h, h']
    by_cases hr : r.isFinish = true
    · exact ⟨[] :: init, last, by rw [if_pos hr]; rfl, by rw [if_pos hr]; rfl⟩
    · rw [if_neg hr, if_neg hr]
      cases init with
      | nil => exact ⟨[], r :: last, rfl, rfl⟩
      | cons part init => exact ⟨(r :: part) :: init, last, rfl, rfl⟩

theorem completed_concat {s : WalkStep β σ} (hs : s.isFinish = false) (t : Trace β σ) :
    completed (t ++ [s]) = completed t := by
  obtain ⟨init, last, h, h'⟩ := split_concat hs t
  unfold completed segments
  rw [h, h', List.map_append, List.map_append]
  exact (List.dropLast_concat).trans (List.dropLast_concat).symm

theorem unfinished_concat {s : WalkStep β σ} (hs : s.isFinish = false) (t : Trace β σ) :
    unfinished (t ++ [s]) = unfinished t ++ s.added?.toList := by
  obtain ⟨init, last, h, h'⟩ := split_concat hs t
  unfold unfinished segments
  rw [h, h', List.map_append, List.map_append]
  rw [List.map_singleton, List.map_singleton, List.getLastD_concat, List.getLastD_concat]
  exact added_concat last s

theorem added_concat_of_none {s : WalkStep β σ} (hs : s.added? = none) (t : Trace β σ) :
    added (t ++ [s]) = added t := by
  rw [added_concat, hs]
  exact List.append_nil _

theorem unfinished_concat_of_none {s : WalkStep β σ} (hf : s.isFinish = false)
    (hs : s.added? = none) (t : Trace β σ) : unfinished (t ++ [s]) = unfinished t := by
  rw [unfinished_concat hf, hs]
  exact List.append_nil _

theorem segments_concat_finish (t : Trace β σ) :
    segments (t ++ [.finish]) = segments t ++ [[]] := by
  unfold segments
  rw [List.splitOnP_append_cons t [] rfl, List.map_append]
  rfl

theorem completed_concat_finish (t : Trace β σ) :
    completed (t ++ [.finish]) = completed t ++ [unfinished t] := by
  have hne : segments t ≠ [] := by
    unfold segments
    simp [List.splitOnP_ne_nil]
  unfold completed unfinished
  rw [segments_concat_finish, List.dropLast_concat, List.getLastD_eq_getLast?,
    List.getLast?_eq_some_getLast hne]
  exact (List.dropLast_append_getLast hne).symm

theorem unfinished_concat_finish (t : Trace β σ) : unfinished (t ++ [.finish]) = [] := by
  unfold unfinished
  rw [segments_concat_finish, List.getLastD_concat]

/-- Steps that end no element go on with the last segment. -/
theorem unfinished_append (t : Trace β σ) : ∀ {u : Trace β σ}, (∀ s ∈ u, s.isFinish = false) →
    completed (t ++ u) = completed t ∧ unfinished (t ++ u) = unfinished t ++ added u := by
  intro u
  induction u using List.reverseRecOn with
  | nil =>
    intro _
    rw [List.append_nil]
    exact ⟨rfl, (List.append_nil _).symm⟩
  | append_singleton u s ih =>
    intro h
    have hs : s.isFinish = false := h s (List.mem_append_right u List.mem_cons_self)
    obtain ⟨hc, hu⟩ := ih fun r hr => h r (List.mem_append_left [s] hr)
    rw [← List.append_assoc, completed_concat hs, unfinished_concat hs, added_concat, hc, hu,
      List.append_assoc]
    exact ⟨rfl, rfl⟩

variable [DecidableEq σ]

theorem markedAfter_concat (before : List σ) (t : Trace β σ) (s : WalkStep β σ) :
    markedAfter before (t ++ [s]) =
      markedAfter before t ++ markedAfter (before ++ added t) [s] := by
  induction t generalizing before with
  | nil => rw [List.nil_append]; exact congrArg (markedAfter · [s]) (List.append_nil before).symm
  | cons r t ih =>
    cases r with
    | add x =>
      have h := ih (before ++ [x])
      rw [List.append_assoc] at h
      exact h
    | mark x =>
      show (if x ∈ before then [x] else []) ++ markedAfter before (t ++ [s]) = _
      rw [ih before, ← List.append_assoc]
      rfl
    | bind name block => exact ih before
    | start => exact ih before
    | finish => exact ih before

theorem marked_concat_mark (t : Trace β σ) (x : σ) :
    marked (t ++ [.mark x]) = marked t ++ if x ∈ added t then [x] else [] := by
  unfold marked
  rw [markedAfter_concat]
  exact congrArg (markedAfter [] t ++ ·) (List.append_nil _)

theorem marked_concat {s : WalkStep β σ} (hs : ∀ x, s ≠ .mark x) (t : Trace β σ) :
    marked (t ++ [s]) = marked t := by
  unfold marked
  rw [markedAfter_concat]
  cases s with
  | mark x => exact absurd rfl (hs x)
  | _ => exact List.append_nil _

end Trace

end StyleUsage
