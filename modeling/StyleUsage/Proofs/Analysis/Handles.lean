import StyleUsage.Analysis.Summary
import StyleUsage.Proofs.Collection.Traversal
import Mathlib.Logic.Relator

/-!
# One walk under two sets of handles

The handles of blocks and styles are names and nothing more. If the handles of one catalog stand for
those of another one to one, with the same sources, owners and fragments (`Handles`), then every
step on the one side has a counterpart on the other (`Renamed.addStyle` and its neighbours), and the
summaries are the same (`Renamed.summarize_eq`).
-/

namespace StyleUsage

variable {β β' σ σ' : Type}

/-- Which handles of two catalogs stand for one block, and which for one style. -/
structure Handles (c : Catalog β σ) (c' : Catalog β' σ') where
  block : β → β' → Prop
  style : σ → σ' → Prop
  block_unique : Relator.BiUnique block
  style_unique : Relator.BiUnique style
  source_eq : ∀ {b b'}, block b b' → c.source b = c'.source b'
  owner_rel : ∀ {x x'}, style x x' → block (c.owner x) (c'.owner x')
  fragment_eq : ∀ {x x'}, style x x' → c.fragment x = c'.fragment x'

namespace OrderedSet

variable [DecidableEq σ] [DecidableEq σ'] {R : σ → σ' → Prop} {s : OrderedSet σ}
  {s' : OrderedSet σ'} {x : σ} {x' : σ'}

omit [DecidableEq σ] [DecidableEq σ'] in
theorem mem_iff_of_forall₂ (hR : Relator.BiUnique R) (h : List.Forall₂ R s.toList s'.toList)
    (hx : R x x') : x ∈ s ↔ x' ∈ s' :=
  List.rel_mem hR hx h

theorem forall₂_insert (hR : Relator.BiUnique R) (h : List.Forall₂ R s.toList s'.toList)
    (hx : R x x') : List.Forall₂ R (s.insert x).toList (s'.insert x').toList := by
  rw [toList_insert, toList_insert]
  by_cases hmem : x ∈ s
  · rw [if_pos hmem, if_pos ((mem_iff_of_forall₂ hR h hx).1 hmem)]
    exact h
  · rw [if_neg hmem, if_neg fun hmem' => hmem ((mem_iff_of_forall₂ hR h hx).2 hmem')]
    exact List.rel_append h (.cons hx .nil)

end OrderedSet

/-! ## Analyses -/

namespace Analysis

variable {c : Catalog β σ} {c' : Catalog β' σ'}

/-- Two analyses differ in their handles alone. -/
structure Renamed (h : Handles c c') (a : Analysis β σ) (a' : Analysis β' σ') : Prop where
  template : a.template = a'.template
  bindings : List.Forall₂ (fun p p' => p.1 = p'.1 ∧ h.block p.2 p'.2) a.bindings a'.bindings
  found : List.Forall₂ h.style a.found.toList a'.found.toList
  dynamic : List.Forall₂ h.style a.dynamic.toList a'.dynamic.toList
  correlations : List.Forall₂ (fun s s' => List.Forall₂ h.style s.toList s'.toList) a.correlations
    a'.correlations
  isOpen : a.scope.isOpen = a'.scope.isOpen
  pending : Option.Rel (fun s s' => List.Forall₂ h.style s.toList s'.toList) a.scope.pending
    a'.scope.pending

variable {h : Handles c c'} {a : Analysis β σ} {a' : Analysis β' σ'}

theorem renamed_begin (h : Handles c c') (t : TemplateInfo) : Renamed h (begin t) (begin t) where
  template := rfl
  bindings := .nil
  found := .nil
  dynamic := .nil
  correlations := .nil
  isOpen := rfl
  pending := .none

theorem Renamed.holdsStyles_eq (hr : Renamed h a a') :
    a.scope.holdsStyles = a'.scope.holdsStyles := by
  have hpending := hr.pending
  unfold Scope.holdsStyles OrderedSet.isEmpty
  generalize a.scope.pending = p at hpending
  generalize a'.scope.pending = p' at hpending
  cases hpending with
  | none => rfl
  | @some set set' hset =>
    dsimp only
    generalize set.toList = xs at hset
    generalize set'.toList = ys at hset
    cases hset <;> rfl

/-! ## Steps -/

theorem Renamed.bind (hr : Renamed h a a') (name : String) {b : β} {b' : β'} (hb : h.block b b') :
    Renamed h (a.bind name b) (a'.bind name b') where
  template := hr.template
  bindings := by
    show List.Forall₂ _ (Entries.put a.bindings name b) (Entries.put a'.bindings name b')
    have hbindings := hr.bindings
    generalize a.bindings = t at hbindings
    generalize a'.bindings = t' at hbindings
    induction hbindings with
    | nil => exact .cons ⟨rfl, hb⟩ .nil
    | @cons p p' t t' hp ht ih =>
      unfold Entries.put
      by_cases hname : p.1 = name
      · rw [if_pos hname, if_pos (hp.1 ▸ hname)]
        exact .cons ⟨hp.1, hb⟩ ht
      · rw [if_neg hname, if_neg (hp.1 ▸ hname)]
        exact .cons hp ih
  found := hr.found
  dynamic := hr.dynamic
  correlations := hr.correlations
  isOpen := hr.isOpen
  pending := hr.pending

theorem Renamed.startElement (hr : Renamed h a a') :
    SameOutcome id (Renamed h) a.startElement a'.startElement := by
  unfold Analysis.startElement Scope.start
  rw [← hr.holdsStyles_eq]
  cases a.scope.holdsStyles with
  | true => exact .error _
  | false => exact .ok { hr with isOpen := rfl, pending := .none }

theorem Renamed.endElement (hr : Renamed h a a') : Renamed h a.endElement a'.endElement where
  template := hr.template
  bindings := hr.bindings
  found := hr.found
  dynamic := hr.dynamic
  correlations := by
    refine List.rel_append hr.correlations ?_
    have hpending := hr.pending
    rw [← hr.holdsStyles_eq]
    cases a.scope.holdsStyles with
    | false => exact .nil
    | true =>
      rw [if_pos rfl, if_pos rfl]
      generalize a.scope.pending = p at hpending
      generalize a'.scope.pending = p' at hpending
      cases hpending with
      | none => exact .nil
      | some hset => exact .cons hset .nil
  isOpen := rfl
  pending := .none

variable [DecidableEq σ] [DecidableEq σ']

theorem Renamed.addStyle (hr : Renamed h a a') {x : σ} {x' : σ'} (hx : h.style x x') :
    Renamed h (a.addStyle x) (a'.addStyle x') where
  template := hr.template
  bindings := hr.bindings
  found := OrderedSet.forall₂_insert h.style_unique hr.found hx
  dynamic := hr.dynamic
  correlations := hr.correlations
  isOpen := rfl
  pending := by
    refine .some ?_
    have hpending := hr.pending
    generalize a.scope.pending = p at hpending
    generalize a'.scope.pending = p' at hpending
    cases hpending with
    | none => exact OrderedSet.forall₂_insert h.style_unique .nil hx
    | some hset => exact OrderedSet.forall₂_insert h.style_unique hset hx

theorem Renamed.markDynamic (hr : Renamed h a a') {x : σ} {x' : σ'} (hx : h.style x x') :
    SameOutcome id (Renamed h) (a.markDynamic x) (a'.markDynamic x') := by
  have hmem : x ∈ a.found ↔ x' ∈ a'.found :=
    OrderedSet.mem_iff_of_forall₂ h.style_unique hr.found hx
  unfold Analysis.markDynamic
  by_cases hfound : x ∈ a.found
  · rw [if_pos hfound, if_pos (hmem.1 hfound)]
    exact .ok { hr with dynamic := OrderedSet.forall₂_insert h.style_unique hr.dynamic hx }
  · rw [if_neg hfound, if_neg fun hfound' => hfound (hmem.2 hfound')]
    exact .error _

/-! ## Summaries -/

variable [DecidableEq β] [DecidableEq β']

omit [DecidableEq σ] [DecidableEq σ'] in
theorem Renamed.blockName?_eq (hr : Renamed h a a') {b : β} {b' : β'} (hb : h.block b b') :
    a.blockName? b = a'.blockName? b' := by
  have hbindings := hr.bindings
  unfold blockName?
  generalize a.bindings = t at hbindings
  generalize a'.bindings = t' at hbindings
  induction hbindings with
  | nil => rfl
  | @cons p p' t t' hp _ ih =>
    have heq : p.2 = b ↔ p'.2 = b' := Relator.rel_eq h.block_unique hp.2 hb
    rw [List.find?_cons, List.find?_cons]
    by_cases hfirst : p.2 = b
    · rw [decide_eq_true hfirst, decide_eq_true (heq.1 hfirst)]
      exact congrArg some hp.1
    · rw [decide_eq_false hfirst, decide_eq_false fun hfirst' => hfirst (heq.2 hfirst')]
      exact ih

omit [DecidableEq σ] [DecidableEq σ'] in
theorem Renamed.canonicalName_eq (hr : Renamed h a a') {x : σ} {x' : σ'} (hx : h.style x x') :
    a.canonicalName c x = a'.canonicalName c' x' := by
  unfold canonicalName
  rw [hr.blockName?_eq (h.owner_rel hx), h.fragment_eq hx]

omit [DecidableEq σ] [DecidableEq σ'] in
theorem Renamed.namesOf_eq (hr : Renamed h a a') {s : OrderedSet σ} {s' : OrderedSet σ'}
    (hs : List.Forall₂ h.style s.toList s'.toList) : a.namesOf c s = a'.namesOf c' s' := by
  exact map_eq_of_forall₂ hs fun _ _ hx => hr.canonicalName_eq hx

omit [DecidableEq σ] [DecidableEq σ'] in
/-- The summary does not tell the handles. -/
theorem Renamed.summarize_eq (hr : Renamed h a a') : a.summarize c = a'.summarize c' := by
  have hblocks : Entries.mapValues c.source a.bindings =
      Entries.mapValues c'.source a'.bindings :=
    map_eq_of_forall₂ hr.bindings fun _ _ hp => Prod.ext hp.1 (h.source_eq hp.2)
  have hcorrelations : ∀ sorted : List String,
      ((a.correlations.filter fun s => 1 < s.size).map fun s => placesIn sorted (a.namesOf c s)) =
        (a'.correlations.filter fun s => 1 < s.size).map fun s =>
          placesIn sorted (a'.namesOf c' s) := by
    intro sorted
    have hsets := hr.correlations
    generalize a.correlations = sets at hsets
    generalize a'.correlations = sets' at hsets
    induction hsets with
    | nil => rfl
    | @cons s s' sets sets' hs _ ih =>
      have hsize : s.size = s'.size := hs.length_eq
      rw [List.filter_cons, List.filter_cons, hsize]
      by_cases hlarge : 1 < s'.size
      · rw [if_pos (decide_eq_true hlarge), if_pos (decide_eq_true hlarge), List.map_cons,
          List.map_cons, hr.namesOf_eq hs, ih]
      · rw [if_neg (by simpa using hlarge), if_neg (by simpa using hlarge), ih]
  unfold summarize
  rw [hr.template, hblocks, hr.namesOf_eq hr.found, hr.namesOf_eq hr.dynamic]
  exact congrArg (Summary.mk _ _ _ _) (hcorrelations _)

end Analysis

end StyleUsage
