import StyleUsage.Proofs.Analysis.Refinement
import StyleUsage.Proofs.Collection.Traversal
import StyleUsage.Walk.Replay

/-!
# What a replay leads to

A script that can be replayed takes the steps of its trace, in which every reference is resolved:
its bindings, then element by element a start, the styles, the marks and an end. The parts of the
analysis that the replay leads to are read off the script (`replayed_of_replay`).
-/

namespace StyleUsage.WalkScript

open Analysis Trace

variable (s : WalkScript)

def stylesOf (references : List String) : List StyleRef :=
  references.filterMap fun r => (s.resolve r).toOption

/-- The steps of an element up to its end. -/
def openTrace (e : WalkElement) : Trace String StyleRef :=
  .start :: (s.stylesOf e.styles).map .add ++ (s.stylesOf e.dynamic).map .mark

def elementTrace (e : WalkElement) : Trace String StyleRef := s.openTrace e ++ [.finish]

def bindTrace : Trace String StyleRef := s.bound.map fun name => .bind name name

/-- The steps of the walk. -/
def trace : Trace String StyleRef := s.bindTrace ++ s.elements.flatMap s.elementTrace

variable {s} {registry : Registry} {a : Analysis String StyleRef}

theorem elementTrace_of_elementSteps {e : WalkElement} {steps : List (WalkStep String StyleRef)}
    (h : s.elementSteps e = .ok steps) : s.elementTrace e = steps := by
  unfold elementSteps at h
  cases hstyles : e.styles.mapM s.resolve with
  | error cause => rw [hstyles] at h; cases h
  | ok styles =>
    cases hdynamic : e.dynamic.mapM s.resolve with
    | error cause => rw [hstyles, hdynamic] at h; cases h
    | ok dynamic =>
      rw [hstyles, hdynamic] at h
      cases h
      unfold elementTrace openTrace stylesOf
      rw [filterMap_of_mapM hstyles, filterMap_of_mapM hdynamic]

theorem trace_of_steps {steps : List (WalkStep String StyleRef)} (h : s.steps = .ok steps) :
    s.trace = steps := by
  unfold WalkScript.steps at h
  cases helements : s.elements.mapM s.elementSteps with
  | error cause => rw [helements] at h; cases h
  | ok elements =>
    rw [helements] at h
    cases h
    unfold trace bindTrace
    rw [List.flatMap_def, map_of_mapM (fun _ _ => elementTrace_of_elementSteps) helements]

/-- A replay takes the steps of the trace on the rebuilt template, and none of them fails. -/
theorem replay_cases (h : s.replay registry = .ok a) :
    ∃ info, registry.rebuild s.template = .ok info ∧ (begin info).runAll s.trace = .ok a := by
  unfold replay at h
  cases hinfo : registry.rebuild s.template with
  | error cause => rw [hinfo] at h; cases h
  | ok info =>
    cases hsteps : s.steps with
    | error cause => rw [hinfo, hsteps] at h; cases h
    | ok steps =>
      rw [hinfo, hsteps] at h
      refine ⟨info, rfl, ?_⟩
      rw [trace_of_steps hsteps]
      change ((begin info).runAll steps).mapError ReplayError.step = .ok a at h
      cases hrun : (begin info).runAll steps with
      | error cause => rw [hrun] at h; cases h
      | ok a' => rw [hrun] at h; cases h; rfl

/-! ## The parts of the trace -/

theorem openTrace_cases {e : WalkElement} {r : WalkStep String StyleRef} (h : r ∈ s.openTrace e) :
    r = .start ∨ (∃ x ∈ s.stylesOf e.styles, r = .add x) ∨
      (∃ x ∈ s.stylesOf e.dynamic, r = .mark x) := by
  rcases List.mem_append.1 h with h | h
  · rcases List.mem_cons.1 h with rfl | h
    · exact .inl rfl
    · obtain ⟨x, hx, rfl⟩ := List.mem_map.1 h
      exact .inr (.inl ⟨x, hx, rfl⟩)
  · obtain ⟨x, hx, rfl⟩ := List.mem_map.1 h
    exact .inr (.inr ⟨x, hx, rfl⟩)

theorem isFinish_openTrace {e : WalkElement} : ∀ r ∈ s.openTrace e, r.isFinish = false := by
  intro r h
  rcases openTrace_cases h with rfl | ⟨x, -, rfl⟩ | ⟨x, -, rfl⟩ <;> rfl

theorem added_openTrace (e : WalkElement) : added (s.openTrace e) = s.stylesOf e.styles := by
  have hmarks : added ((s.stylesOf e.dynamic).map .mark : Trace String StyleRef) = [] :=
    added_eq_nil fun r hr => by obtain ⟨x, -, rfl⟩ := List.mem_map.1 hr; rfl
  unfold openTrace
  rw [added_append, hmarks, List.append_nil]
  exact added_map_add (s.stylesOf e.styles)

theorem completed_elementTrace {t : Trace String StyleRef} (ht : unfinished t = [])
    (e : WalkElement) :
    completed (t ++ s.elementTrace e) = completed t ++ [s.stylesOf e.styles] ∧
      unfinished (t ++ s.elementTrace e) = [] := by
  obtain ⟨hc, hu⟩ := unfinished_append t (isFinish_openTrace (s := s) (e := e))
  rw [ht, added_openTrace, List.nil_append] at hu
  unfold elementTrace
  rw [← List.append_assoc, completed_concat_finish, unfinished_concat_finish, hc, hu]
  exact ⟨rfl, rfl⟩

theorem completed_elements : ∀ (es : List WalkElement) {t : Trace String StyleRef},
    unfinished t = [] →
    completed (t ++ es.flatMap s.elementTrace) =
      completed t ++ es.map fun e => s.stylesOf e.styles
  | [], t, _ => by
    show completed (t ++ []) = completed t ++ []
    rw [List.append_nil, List.append_nil]
  | e :: es, t, ht => by
    obtain ⟨hc, hu⟩ := completed_elementTrace ht e
    rw [List.flatMap_cons, ← List.append_assoc, completed_elements es hu, hc, List.append_assoc]
    rfl

theorem completed_bindTrace : completed s.bindTrace = [] ∧ unfinished s.bindTrace = [] := by
  have hsteps : ∀ r ∈ s.bindTrace, r.isFinish = false ∧ r.added? = none := by
    intro r hr
    obtain ⟨name, -, rfl⟩ := List.mem_map.1 hr
    exact ⟨rfl, rfl⟩
  obtain ⟨hc, hu⟩ := unfinished_append [] fun r hr => (hsteps r hr).1
  rw [added_eq_nil fun r hr => (hsteps r hr).2] at hu
  exact ⟨hc, hu⟩

theorem completed_trace : completed s.trace = s.elements.map fun e => s.stylesOf e.styles := by
  obtain ⟨hc, hu⟩ := completed_bindTrace (s := s)
  unfold trace
  rw [completed_elements s.elements hu, hc, List.nil_append]

theorem bound_trace : Trace.bound s.trace = s.bound.map fun name => (name, name) := by
  have hnames : Trace.bound s.bindTrace = s.bound.map fun name => (name, name) := by
    unfold Trace.bound bindTrace
    rw [List.filterMap_map, ← List.filterMap_eq_map]
    rfl
  have helements : Trace.bound (s.elements.flatMap s.elementTrace) = [] := by
    refine bound_eq_nil fun r hr => ?_
    obtain ⟨e, -, hr⟩ := List.mem_flatMap.1 hr
    rcases List.mem_append.1 hr with hr | hr
    · rcases openTrace_cases hr with rfl | ⟨x, -, rfl⟩ | ⟨x, -, rfl⟩ <;> rfl
    · rw [List.mem_singleton.1 hr]
      rfl
  unfold trace
  rw [bound_append, hnames, helements, List.append_nil]

theorem add_mem_trace {x : StyleRef} :
    .add x ∈ s.trace ↔ ∃ e ∈ s.elements, x ∈ s.stylesOf e.styles := by
  simp [trace, bindTrace, elementTrace, openTrace]

theorem mark_mem_trace {x : StyleRef} :
    .mark x ∈ s.trace ↔ ∃ e ∈ s.elements, x ∈ s.stylesOf e.dynamic := by
  simp [trace, bindTrace, elementTrace, openTrace]

/-! ## The replayed analysis -/

/-- The parts of the analysis that the replay of a script leads to. -/
structure Replayed (s : WalkScript) (a : Analysis String StyleRef) : Prop where
  bindings : a.bindings = Entries.ofPairs (s.bound.map fun name => (name, name))
  mem_found : ∀ x, x ∈ a.found ↔ ∃ e ∈ s.elements, x ∈ s.stylesOf e.styles
  mem_dynamic : ∀ x, x ∈ a.dynamic ↔ ∃ e ∈ s.elements, x ∈ s.stylesOf e.dynamic
  /-- The correlations are the styles of the elements that have some, each style once. -/
  correlations : a.correlations.map OrderedSet.toList =
    ((s.elements.map fun e => s.stylesOf e.styles).filter (· ≠ [])).map List.eraseDups

theorem replayed_of_replay (h : s.replay registry = .ok a) : s.Replayed a := by
  obtain ⟨info, -, hall⟩ := replay_cases h
  have hrun := run_of_runAll hall
  refine ⟨?_, ?_, ?_, ?_⟩
  · rw [← hrun, bindings_run, bound_trace]
  · intro x
    rw [← hrun, mem_found_run, mem_added, add_mem_trace]
  · intro x
    rw [mem_dynamic_runAll hall, mark_mem_trace]
    exact or_iff_right (List.not_mem_nil)
  · rw [← hrun, correlations_run, completed_trace]

theorem Replayed.alias_eq (h : s.Replayed a) {p : String × String} (hp : p ∈ a.bindings) :
    p.1 = p.2 := by
  rw [h.bindings] at hp
  obtain ⟨name, -, rfl⟩ := List.mem_map.1 (Entries.mem_of_mem_ofPairs hp)
  rfl

theorem Replayed.keys_bindings (h : s.Replayed a) :
    Entries.keys a.bindings = s.bound.eraseDups := by
  rw [h.bindings, Entries.keys_ofPairs, List.map_map]
  exact congrArg List.eraseDups (List.map_id s.bound)

theorem Replayed.mem_bound_iff (h : s.Replayed a) {block : String} :
    block ∈ s.bound ↔ ∃ p ∈ a.bindings, p.2 = block := by
  rw [← List.mem_eraseDups, ← h.keys_bindings]
  unfold Entries.keys
  rw [List.mem_map]
  exact exists_congr fun p => and_congr_right fun hp => by rw [h.alias_eq hp]

theorem Replayed.blockName?_eq (h : s.Replayed a) (block : String) :
    a.blockName? block = if block ∈ s.bound then some block else none := by
  unfold blockName?
  cases hfind : a.bindings.find? fun p => decide (p.2 = block) with
  | none =>
    have hnone : block ∉ s.bound := by
      rw [h.mem_bound_iff]
      rintro ⟨p, hp, rfl⟩
      exact List.find?_eq_none.1 hfind p hp (decide_eq_true rfl)
    rw [if_neg hnone]
    rfl
  | some p =>
    have hp : p ∈ a.bindings := List.mem_of_find?_eq_some hfind
    have heq : p.2 = block := by simpa using List.find?_some hfind
    rw [if_pos (h.mem_bound_iff.2 ⟨p, hp, heq⟩)]
    exact congrArg some ((h.alias_eq hp).trans heq)

variable (s) in
/-- The name of a style: its fragment, behind the alias of its block if that is bound. -/
def styleName (x : StyleRef) : String := (if x.block ∈ s.bound then x.block else "") ++ x.fragment

/-- The name of a style in the analysis is read off the script. -/
theorem Replayed.canonicalName_eq (h : s.Replayed a) : a.canonicalName s.catalog = s.styleName := by
  funext x
  show (a.blockName? x.block).getD "" ++ x.fragment = _
  unfold styleName
  rw [h.blockName?_eq]
  by_cases hx : x.block ∈ s.bound
  · rw [if_pos hx, if_pos hx]
    rfl
  · rw [if_neg hx, if_neg hx]
    rfl

variable (s) in
/-- The styles of an element, each once, if there are two or more. -/
def sharedStyles? (e : WalkElement) : Option (List StyleRef) :=
  let styles := (s.stylesOf e.styles).eraseDups
  if 1 < styles.length then some styles else none

/-- The correlations of two styles or more are those of the elements with two styles or more. -/
theorem Replayed.large_correlations (h : s.Replayed a) :
    (a.correlations.filter fun set => 1 < set.size).map OrderedSet.toList =
      s.elements.filterMap s.sharedStyles? := by
  have hfilter : (a.correlations.filter fun set => 1 < set.size).map OrderedSet.toList =
      (a.correlations.map OrderedSet.toList).filter fun xs => 1 < xs.length := by
    rw [List.filter_map]
    rfl
  rw [hfilter, h.correlations]
  generalize s.elements = elements
  induction elements with
  | nil => rfl
  | cons e elements ih =>
    rw [List.filterMap_cons, ← ih]
    unfold sharedStyles?
    dsimp only
    by_cases hnil : s.stylesOf e.styles = []
    · simp [hnil]
    · by_cases hlen : 1 < (s.stylesOf e.styles).eraseDups.length
      · simp [hnil, hlen]
      · simp [hnil, hlen]

end StyleUsage.WalkScript
