import StyleUsage.Proofs.Summary.Decoded

/-!
# Growing summaries

Every step but a binding leaves the template and the bindings as they are and only adds to what an
analysis holds (`extends_step`), and so does a run without bindings (`extends_run`). The places in
its summaries shift with every name that comes in between, so two summaries of one run are compared
by what their places decode to (`Summary.GrowsInto`). The summaries of a run without bindings grow
in that sense, and the end of an element adds one correlation or none (`summary_grows`).
-/

namespace StyleUsage

/-! ## Decoded summaries -/

namespace Summary

/-- The names at some places of a summary, if all of them are places of it. -/
def namesAt? (s : Summary) (places : List Nat) : Option (List String) :=
  places.mapM (s.stylesFound[·]?)

def dynamicNames? (s : Summary) : Option (List String) := s.namesAt? s.dynamicStyles

def correlationNames? (s : Summary) : Option (List (List String)) :=
  s.styleCorrelations.mapM s.namesAt?

/-- One summary becomes another by growth: every name is found and is dynamic at least as often, and
further correlations come behind the ones that are there. -/
structure GrowsInto (s s' : Summary) : Prop where
  template : s'.template = s.template
  blocks : s'.blocks = s.blocks
  found : ∀ n, s.stylesFound.count n ≤ s'.stylesFound.count n
  dynamic : ∃ names names', s.dynamicNames? = some names ∧ s'.dynamicNames? = some names' ∧
    ∀ n, names.count n ≤ names'.count n
  correlations : ∃ names names', s.correlationNames? = some names ∧
    s'.correlationNames? = some names' ∧ names <+: names'

end Summary

namespace Analysis

variable {β σ : Type}

section Decoded

variable [DecidableEq β] (c : Catalog β σ) {a : Analysis β σ}

/-- The places of names in a summary decode to these names, sorted. -/
theorem namesAt?_summarize {names : List String}
    (h : ∀ n ∈ names, n ∈ (a.summarize c).stylesFound) :
    (a.summarize c).namesAt? (placesIn (a.summarize c).stylesFound names) =
      some names.mergeSort :=
  mapM_eq_some_of_map (map_getElem?_placesIn (pairwise_mergeSort_le _) h)

theorem dynamicNames?_summarize (h : a.Coherent) :
    (a.summarize c).dynamicNames? = some (a.namesOf c a.dynamic).mergeSort :=
  namesAt?_summarize c (namesOf_subset c h.dynamic_found)

theorem correlationNames?_summarize (h : a.Coherent) :
    (a.summarize c).correlationNames? = some ((a.correlationNames c).map List.mergeSort) := by
  unfold Summary.correlationNames?
  rw [styleCorrelations_summarize, List.mapM_map]
  exact mapM_eq_pure (m := Option) fun names hnames =>
    namesAt?_summarize c (correlationNames_subset c h names hnames)

end Decoded

/-! ## What steps add -/

/-- An analysis has the template and the bindings of another, all that the other holds, in the same
order, and perhaps more behind it. The element that is being walked does not count. -/
structure Extends (a a' : Analysis β σ) : Prop where
  template : a'.template = a.template
  bindings : a'.bindings = a.bindings
  found : a.found.toList <+: a'.found.toList
  dynamic : a.dynamic.toList <+: a'.dynamic.toList
  correlations : a.correlations <+: a'.correlations

theorem Extends.refl (a : Analysis β σ) : a.Extends a :=
  ⟨rfl, rfl, List.prefix_rfl, List.prefix_rfl, List.prefix_rfl⟩

theorem Extends.trans {a a₁ a₂ : Analysis β σ} (h : a.Extends a₁) (h' : a₁.Extends a₂) :
    a.Extends a₂ where
  template := h'.template.trans h.template
  bindings := h'.bindings.trans h.bindings
  found := h.found.trans h'.found
  dynamic := h.dynamic.trans h'.dynamic
  correlations := h.correlations.trans h'.correlations

section Step

variable [DecidableEq σ] {a a' : Analysis β σ}

theorem extends_step {s : WalkStep β σ} (hs : s.bound? = none) (h : a.step s = .ok a') :
    a.Extends a' := by
  rcases step_cases h with ⟨_, _, rfl, rfl⟩ | ⟨-, -, rfl⟩ | ⟨x, -, rfl⟩ | ⟨x, -, -, rfl⟩ | ⟨-, rfl⟩
  · cases hs
  · exact ⟨rfl, rfl, List.prefix_rfl, List.prefix_rfl, List.prefix_rfl⟩
  · exact ⟨rfl, rfl, OrderedSet.prefix_insert a.found x, List.prefix_rfl, List.prefix_rfl⟩
  · exact ⟨rfl, rfl, List.prefix_rfl, OrderedSet.prefix_insert a.dynamic x, List.prefix_rfl⟩
  · exact ⟨rfl, rfl, List.prefix_rfl, List.prefix_rfl, List.prefix_append ..⟩

theorem extends_run {steps : List (WalkStep β σ)} (h : ∀ s ∈ steps, s.bound? = none) :
    a.Extends (a.run steps) := by
  induction steps generalizing a with
  | nil => exact .refl a
  | cons s steps ih =>
    obtain ⟨hs, hsteps⟩ := List.forall_mem_cons.1 h
    rw [run_cons]
    cases hstep : a.step s with
    | ok a' =>
      rw [stepOrStay_of_ok hstep]
      exact (extends_step hs hstep).trans (ih hsteps)
    | error e =>
      rw [stepOrStay_of_error hstep]
      exact ih hsteps

end Step

/-! ## What shows in a summary -/

variable [DecidableEq β] (c : Catalog β σ) {a a' : Analysis β σ}

theorem Extends.namesOf_eq (h : a.Extends a') : a'.namesOf c = a.namesOf c := by
  funext styles
  unfold namesOf
  rw [canonicalName_congr c h.bindings]

/-- Some styles give a name at most as often as these styles and further ones. -/
theorem Extends.count_namesOf_le (h : a.Extends a') {styles styles' : OrderedSet σ}
    (hstyles : styles.toList <+: styles'.toList) (n : String) :
    (a.namesOf c styles).mergeSort.count n ≤ (a'.namesOf c styles').mergeSort.count n := by
  have hnames : a.namesOf c styles <+: a'.namesOf c styles' := by
    rw [h.namesOf_eq]
    exact hstyles.map _
  rw [(List.mergeSort_perm _ _).count_eq, (List.mergeSort_perm _ _).count_eq]
  exact hnames.sublist.count_le n

/-- What adds to an analysis makes its summary grow. -/
theorem Extends.growsInto (h : a.Extends a') (ha : a.Coherent) (ha' : a'.Coherent) :
    (a.summarize c).GrowsInto (a'.summarize c) where
  template := congrArg TemplateInfo.describe h.template
  blocks := congrArg (Entries.mapValues c.source) h.bindings
  found := h.count_namesOf_le c h.found
  dynamic := ⟨_, _, dynamicNames?_summarize c ha, dynamicNames?_summarize c ha',
    h.count_namesOf_le c h.dynamic⟩
  correlations := by
    refine ⟨_, _, correlationNames?_summarize c ha, correlationNames?_summarize c ha', ?_⟩
    unfold correlationNames
    rw [h.namesOf_eq]
    exact ((h.correlations.filter _).map _).map _

/-- Closing an element gives two styles or more exactly if that many are pending. -/
theorem filter_commit (s : Scope σ) : s.commit.1.toList.filter (fun x => 1 < x.size) =
    s.pending.toList.filter (fun x => 1 < x.size) := by
  unfold Scope.commit
  by_cases h : s.holdsStyles = true
  · rw [if_pos h]
  · rw [if_neg h]
    symm
    apply List.filter_eq_nil_iff.2
    intro pending hpending hsize
    have hpos : 0 < pending.toList.length := Nat.zero_lt_of_lt (of_decide_eq_true hsize)
    have hne : pending.toList ≠ [] := List.ne_nil_of_length_pos hpos
    exact h (Scope.holdsStyles_iff.2 ⟨pending, Option.mem_toList.1 hpending, hne⟩)

/-- The end of an element adds the places of the names of the pending styles, if there are two or
more. -/
theorem styleCorrelations_endElement (a : Analysis β σ) :
    (a.endElement.summarize c).styleCorrelations = (a.summarize c).styleCorrelations ++
      (a.scope.pending.toList.filter fun x => 1 < x.size).map fun x =>
        placesIn (a.summarize c).stylesFound (a.namesOf c x) := by
  rw [← filter_commit]
  show ((a.correlations ++ a.scope.commit.1.toList).filter _).map _ = _
  rw [List.filter_append, List.map_append]
  rfl

variable [DecidableEq σ]

/-- **Summaries grow.** Take a summary after whatever steps, failing ones passed over, also in the
middle of an element, and another after further steps that bind nothing. Both exist, and the one
grows into the other. The end of an element changes nothing but the correlations: to these it adds
the first places of the names of the pending styles, sorted, if two or more are pending, and nothing
otherwise. -/
theorem summary_grows (template : TemplateInfo) (t more : Trace β σ) (c : Catalog β σ)
    (hmore : ∀ step ∈ more, step.bound? = none) :
    let a := (begin template).run t
    let s := a.summarize c
    let later := (a.run more).summarize c
    let closed := a.endElement.summarize c
    a.summarize? c = some s ∧ (a.run more).summarize? c = some later ∧
      a.endElement.summarize? c = some closed ∧
      s.GrowsInto later ∧
      closed.template = s.template ∧ closed.blocks = s.blocks ∧
      closed.stylesFound = s.stylesFound ∧ closed.dynamicStyles = s.dynamicStyles ∧
      (∀ pending, a.scope.pending = some pending → 1 < pending.size →
        ∃ places, closed.styleCorrelations = s.styleCorrelations ++ [places] ∧
          places = (pending.toList.map fun x =>
            s.stylesFound.idxOf (a.canonicalName c x)).mergeSort ∧
          s.namesAt? places = some (pending.toList.map (a.canonicalName c)).mergeSort) ∧
      ((∀ pending, a.scope.pending = some pending → ¬1 < pending.size) →
        closed.styleCorrelations = s.styleCorrelations) := by
  intro a s later closed
  have ha : a.Coherent := coherent_run template t
  have hlater : (a.run more).Coherent := run_preserves coherent_step ha more
  have hcorrelations := styleCorrelations_endElement c a
  refine ⟨summarize?_eq_some c ha, summarize?_eq_some c hlater, summarize?_eq_some c ha.endElement,
    (extends_run hmore).growsInto c ha hlater, rfl, rfl, rfl, rfl, ?_, ?_⟩
  · intro pending hpending hsize
    have hfilter : [pending].filter (fun x => 1 < x.size) = [pending] :=
      List.filter_cons_of_pos (decide_eq_true hsize)
    rw [hpending, Option.toList_some, hfilter] at hcorrelations
    refine ⟨placesIn s.stylesFound (a.namesOf c pending), hcorrelations, ?_, ?_⟩
    · unfold placesIn namesOf
      rw [List.map_map]
      rfl
    · exact namesAt?_summarize c (namesOf_subset c (ha.pending_found pending hpending))
  · intro hsmall
    have hfilter : a.scope.pending.toList.filter (fun x => 1 < x.size) = [] := by
      apply List.filter_eq_nil_iff.2
      intro pending hpending hsize
      exact hsmall pending (Option.mem_toList.1 hpending) (of_decide_eq_true hsize)
    rw [hfilter] at hcorrelations
    exact hcorrelations.trans (List.append_nil _)

/-- A name comes in front of the others after steps that fail in the middle of an element. -/
theorem summary_grows_shifted :
    let template : TemplateInfo := ⟨.base, .str "t.hbs", []⟩
    let c : Catalog Nat Nat :=
      ⟨fun _ => "m.css", [], fun _ => 0, fun x => [".a", ".b", ".c"].getD x ""⟩
    let t : Trace Nat Nat :=
      [.bind "m" 0, .start, .add 1, .add 2, .finish, .start, .add 1, .mark 1, .add 2]
    let more : Trace Nat Nat := [.start, .mark 0, .finish, .start, .add 0, .add 1, .finish]
    let a := (begin template).run t
    (∀ step ∈ more, step.bound? = none) ∧
      (a.summarize c).stylesFound = ["m.b", "m.c"] ∧
      ((a.run more).summarize c).stylesFound = ["m.a", "m.b", "m.c"] ∧
      (a.summarize c).GrowsInto ((a.run more).summarize c) := by
  intro template c t more a
  have hmore : ∀ step ∈ more, step.bound? = none := by decide
  obtain ⟨-, -, -, hgrows, -⟩ := summary_grows template t more c hmore
  exact ⟨hmore, mergeSort_eq_of_perm (by decide) (by decide),
    mergeSort_eq_of_perm (by decide) (by decide), hgrows⟩

end Analysis

end StyleUsage
