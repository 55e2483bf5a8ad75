import StyleUsage.Proofs.Walk.Reading
import StyleUsage.Proofs.Walk.Replay

/-!
# Scripts that were read

Every reference of a script that was read is the pair of an alias and a fragment that the script
declares (`Accepted.resolve_eq`), every name that the template binds is that of a block, and no
block is there twice (`accepted_of_read`). So its replay walks over these pairs, element by element
(`Accepted.replay_eq`).
-/

namespace StyleUsage

/-- A reference as the pair of an alias and a fragment: the text without the blanks around it, split
before the first character that a fragment starts with. -/
def pairOf (reference : String) : StyleRef :=
  let cs := Text.stripChars reference.toList
  ⟨String.ofList (cs.takeWhile fun c => !startsFragment c),
    String.ofList (cs.dropWhile fun c => !startsFragment c)⟩

namespace WalkScript

variable {s : WalkScript}

/-! ## References -/

/-- A reference has an alias and a fragment, and the fragment no line feed. -/
def IsReference (reference : String) : Prop :=
  splitReference (Text.stripChars reference.toList) ≠ none

/-- Whether a script has a block of this alias with a style of this fragment. -/
def Declares (s : WalkScript) (x : StyleRef) : Prop :=
  ∃ block, Entries.get? s.blocks x.block = some block ∧ x.fragment ∈ block.styles

theorem split_eq_some {reference : String} {name fragment : List Char}
    (h : splitReference (Text.stripChars reference.toList) = some (name, fragment)) :
    pairOf reference = ⟨String.ofList name, String.ofList fragment⟩ := by
  unfold splitReference at h
  dsimp only at h
  split at h
  · cases h
  · cases h
    rfl

/-- A reference is resolved exactly if it is the pair of an alias and a fragment of a declared
style, and then to this style. -/
theorem resolve_ok_iff {reference : String} {x : StyleRef} :
    s.resolve reference = .ok x ↔ IsReference reference ∧ x = pairOf reference ∧ s.Declares x := by
  unfold resolve IsReference Declares
  cases hsplit : splitReference (Text.stripChars reference.toList) with
  | none => simp
  | some p =>
    obtain ⟨name, fragment⟩ := p
    rw [split_eq_some hsplit]
    dsimp only
    cases hblock : Entries.get? s.blocks (String.ofList name) with
    | none =>
      simp only [reduceCtorEq, false_iff]
      rintro ⟨-, rfl, block, h, -⟩
      rw [hblock] at h
      cases h
    | some block =>
      dsimp only
      by_cases hmem : String.ofList fragment ∈ block.styles
      · rw [if_pos hmem, Except.ok.injEq]
        constructor
        · rintro rfl
          exact ⟨Option.some_ne_none _, rfl, block, hblock, hmem⟩
        · rintro ⟨-, rfl, -⟩
          rfl
      · rw [if_neg hmem]
        simp only [reduceCtorEq, false_iff]
        rintro ⟨-, rfl, block', h, hmem'⟩
        rw [hblock] at h
        cases h
        exact hmem hmem'

/-! ## Accepted scripts -/

/-- What a script has that was read. -/
structure Accepted (s : WalkScript) : Prop where
  names_nodup : (Entries.keys s.blocks).Nodup
  bound_declared : ∀ name ∈ s.bound, name ∈ Entries.keys s.blocks
  resolve_eq : ∀ e ∈ s.elements, ∀ r ∈ e.styles ++ e.dynamic, s.resolve r = .ok (pairOf r)

theorem Blocks.nodup_keys_ofEntries (rs : List ReadEntry) :
    (Entries.keys (Blocks.ofEntries rs).declared).Nodup := by
  show (Entries.keys (Entries.ofPairs _)).Nodup
  rw [Entries.keys_ofPairs]
  exact nodup_eraseDups _

theorem Blocks.bound_ofEntries_subset {rs : List ReadEntry} {name : String}
    (h : name ∈ (Blocks.ofEntries rs).bound) :
    name ∈ Entries.keys (Blocks.ofEntries rs).declared := by
  obtain ⟨r, hr, rfl⟩ := List.mem_map.1 h
  show r.name ∈ Entries.keys (Entries.ofPairs _)
  rw [Entries.keys_ofPairs, List.mem_eraseDups, List.map_map]
  exact List.mem_map_of_mem (List.mem_of_mem_filter hr)

theorem accepted_of_read {identifier : String} {d : Datum} (h : read identifier d = .ok s) :
    s.Accepted := by
  obtain ⟨entries, -, hblocks, -, -, hrefs⟩ := read_ok_iff.1 h
  obtain ⟨_, rs, -, -, hb, -⟩ := readBlocks_ok_iff.1 hblocks
  have hdeclared : s.blocks = (Blocks.ofEntries rs).declared := congrArg Blocks.declared hb
  have hbound : s.bound = (Blocks.ofEntries rs).bound := congrArg Blocks.bound hb
  refine ⟨?_, ?_, ?_⟩
  · rw [hdeclared]
    exact Blocks.nodup_keys_ofEntries rs
  · intro name hname
    rw [hbound] at hname
    rw [hdeclared]
    exact Blocks.bound_ofEntries_subset hname
  · intro e he r hr
    obtain ⟨x, hx⟩ := hrefs r (List.mem_flatMap.2 ⟨e, he, hr⟩)
    rw [hx, (resolve_ok_iff.1 hx).2.1]

/-- Bind a name, which is the handle of the block that has it. -/
def bindName (a : Analysis String StyleRef) (name : String) :
    Except ProtocolError (Analysis String StyleRef) :=
  .ok (a.bind name name)

def addPair (a : Analysis String StyleRef) (reference : String) :
    Except ProtocolError (Analysis String StyleRef) :=
  .ok (a.addStyle (pairOf reference))

def markPair (a : Analysis String StyleRef) (reference : String) :
    Except ProtocolError (Analysis String StyleRef) :=
  a.markDynamic (pairOf reference)

/-- Walk over one element whose references are pairs of an alias and a fragment. -/
def walkPairs (a : Analysis String StyleRef) (e : WalkElement) :
    Except ProtocolError (Analysis String StyleRef) := do
  let a ← a.startElement
  let a ← e.styles.foldlM addPair a
  let a ← e.dynamic.foldlM markPair a
  .ok a.endElement

namespace Accepted

variable (h : s.Accepted) {e : WalkElement} (he : e ∈ s.elements)

include h he

theorem stylesOf_styles : s.stylesOf e.styles = e.styles.map pairOf := by
  unfold stylesOf
  rw [← List.filterMap_eq_map]
  refine List.filterMap_congr fun r hr => ?_
  rw [h.resolve_eq e he r (List.mem_append_left _ hr)]
  rfl

theorem stylesOf_dynamic : s.stylesOf e.dynamic = e.dynamic.map pairOf := by
  unfold stylesOf
  rw [← List.filterMap_eq_map]
  refine List.filterMap_congr fun r hr => ?_
  rw [h.resolve_eq e he r (List.mem_append_right _ hr)]
  rfl

theorem elementSteps_eq : s.elementSteps e = .ok (s.elementTrace e) := by
  have hstyles : e.styles.mapM s.resolve = .ok (e.styles.map pairOf) :=
    mapM_eq_pure fun r hr => h.resolve_eq e he r (List.mem_append_left _ hr)
  have hdynamic : e.dynamic.mapM s.resolve = .ok (e.dynamic.map pairOf) :=
    mapM_eq_pure fun r hr => h.resolve_eq e he r (List.mem_append_right _ hr)
  unfold elementSteps elementTrace openTrace
  rw [hstyles, hdynamic, h.stylesOf_styles he, h.stylesOf_dynamic he]
  rfl

theorem runAll_elementTrace (a : Analysis String StyleRef) :
    a.runAll (s.elementTrace e) = walkPairs a e := by
  unfold elementTrace openTrace
  rw [h.stylesOf_styles he, h.stylesOf_dynamic he, List.map_map, List.map_map, List.append_assoc,
    List.cons_append]
  show (a.step .start >>= fun a => a.runAll (_ ++ (_ ++ [.finish]))) = _
  refine bind_congr fun a₁ => ?_
  rw [Analysis.runAll_append, Analysis.runAll_map]
  refine bind_congr fun a₂ => ?_
  rw [Analysis.runAll_append, Analysis.runAll_map]
  exact bind_congr fun a₃ => rfl

omit he

/-- The walk of an accepted script has the steps of its trace. -/
theorem steps_eq : s.steps = .ok s.trace := by
  have helements : s.elements.mapM s.elementSteps = .ok (s.elements.map s.elementTrace) :=
    mapM_eq_pure fun e he => h.elementSteps_eq he
  unfold steps trace bindTrace
  rw [helements, List.flatMap_def]
  rfl

/-- A replay rebuilds the template, binds the names and walks over the elements. -/
theorem replay_eq (registry : Registry) : s.replay registry = (do
    let template ← (registry.rebuild s.template).mapError .template
    (do
      let a ← s.bound.foldlM bindName (Analysis.begin template)
      s.elements.foldlM walkPairs a).mapError .step) := by
  unfold replay
  refine bind_congr fun template => ?_
  rw [h.steps_eq]
  show ((Analysis.begin template).runAll s.trace).mapError _ = _
  congr 1
  unfold trace bindTrace
  rw [Analysis.runAll_append, Analysis.runAll_map]
  refine bind_congr fun a => ?_
  rw [Analysis.runAll_flatMap]
  exact foldlM_congr fun a e he => h.runAll_elementTrace he a

end Accepted

end WalkScript

end StyleUsage
