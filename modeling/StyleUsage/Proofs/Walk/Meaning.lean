import StyleUsage.Proofs.Analysis.Lookup
import StyleUsage.Proofs.Walk.Reordered
import StyleUsage.Proofs.Walk.Stored

/-!
# What the summary of a walk means

The summary of the analysis that a replay leads to is read off the texts of the script (`meaning`):
every reference is a pair of an alias and a fragment, a pair is named by its fragment behind the
alias if that is bound, and styles are counted by their pairs. The handles leave no trace
(`summary_of_walk`).
-/

namespace StyleUsage

namespace WalkScript

open Analysis

variable {s : WalkScript} {registry : Registry} {a : Analysis String StyleRef}

/-- The pairs that references are, each once. -/
def pairsOf (references : List String) : List StyleRef := (references.map pairOf).eraseDups

variable (s) in
/-- The names of the pairs that the elements have as styles, in the order of code points. Pairs of
one name are listed one by one. -/
def styleNames : List String :=
  ((pairsOf (s.elements.flatMap WalkElement.styles)).map s.styleName).mergeSort

variable (s) in
/-- The first places of the names of pairs, in their order. -/
def placesOf (pairs : List StyleRef) : List Nat :=
  (pairs.map fun x => s.styleNames.idxOf (s.styleName x)).mergeSort

variable (s) in
/-- What is told of an element: the places of its pairs, if it has two or more. -/
def correlationOf? (e : WalkElement) : Option (List Nat) :=
  if 1 < (pairsOf e.styles).length then some (s.placesOf (pairsOf e.styles)) else none

variable (s) in
/-- The summary of a walk, read off the texts of its script. -/
def meaning (template : TemplateInfo) : Summary where
  template := template.describe
  blocks := s.bound.eraseDups.map fun name => (name, s.source name)
  stylesFound := s.styleNames
  dynamicStyles := s.placesOf (pairsOf (s.elements.flatMap WalkElement.dynamic))
  styleCorrelations := s.elements.filterMap s.correlationOf?

theorem mem_pairsOf {references : List String} {x : StyleRef} :
    x ∈ pairsOf references ↔ ∃ r ∈ references, pairOf r = x := by
  unfold pairsOf
  rw [List.mem_eraseDups, List.mem_map]

theorem nodup_pairsOf (references : List String) : (pairsOf references).Nodup :=
  nodup_eraseDups _

theorem exists_stylesOf_iff {part : WalkElement → List String}
    (hpart : ∀ e ∈ s.elements, s.stylesOf (part e) = (part e).map pairOf) {x : StyleRef} :
    (∃ e ∈ s.elements, x ∈ s.stylesOf (part e)) ↔ x ∈ pairsOf (s.elements.flatMap part) := by
  rw [mem_pairsOf]
  constructor
  · rintro ⟨e, he, hx⟩
    rw [hpart e he] at hx
    obtain ⟨r, hr, rfl⟩ := List.mem_map.1 hx
    exact ⟨r, List.mem_flatMap.2 ⟨e, he, hr⟩, rfl⟩
  · rintro ⟨r, hr, rfl⟩
    obtain ⟨e, he, hr⟩ := List.mem_flatMap.1 hr
    refine ⟨e, he, ?_⟩
    rw [hpart e he]
    exact List.mem_map_of_mem hr

/-- The bindings are the bound names, each once. -/
theorem Replayed.bindings_eq (h : s.Replayed a) :
    a.bindings = s.bound.eraseDups.map fun name => (name, name) := by
  rw [← h.keys_bindings]
  unfold Entries.keys
  rw [List.map_map]
  conv_lhs => rw [← List.map_id a.bindings]
  exact List.map_congr_left fun p hp => Prod.ext rfl (h.alias_eq hp).symm

/-- The summary of the replay of an accepted script is the meaning of the script. -/
theorem summarize_eq_meaning (h : s.Accepted) (hreplay : s.replay registry = .ok a) :
    a.summarize s.catalog = s.meaning a.template := by
  have hr := replayed_of_replay hreplay
  have hfound : a.found.toList.Perm (pairsOf (s.elements.flatMap WalkElement.styles)) :=
    (List.perm_ext_iff_of_nodup a.found.nodup (nodup_pairsOf _)).2 fun x =>
      (hr.mem_found x).trans (exists_stylesOf_iff fun e he => h.stylesOf_styles he)
  have hdynamic : a.dynamic.toList.Perm (pairsOf (s.elements.flatMap WalkElement.dynamic)) :=
    (List.perm_ext_iff_of_nodup a.dynamic.nodup (nodup_pairsOf _)).2 fun x =>
      (hr.mem_dynamic x).trans (exists_stylesOf_iff fun e he => h.stylesOf_dynamic he)
  have hnames : (a.summarize s.catalog).stylesFound = s.styleNames := by
    show (a.namesOf s.catalog a.found).mergeSort = _
    unfold namesOf
    rw [hr.canonicalName_eq]
    exact mergeSort_eq_iff_perm.2 (hfound.map _)
  refine Summary.eq_of_parts rfl ?_ hnames ?_ ?_
  · show Entries.mapValues s.source a.bindings = s.bound.eraseDups.map _
    rw [hr.bindings_eq]
    unfold Entries.mapValues
    rw [List.map_map]
    rfl
  · show placesIn (a.summarize s.catalog).stylesFound (a.namesOf s.catalog a.dynamic) = _
    unfold namesOf placesIn
    rw [hnames, hr.canonicalName_eq, List.map_map]
    exact mergeSort_eq_iff_perm.2 (hdynamic.map _)
  · rw [styleCorrelations_of_replayed _ hr]
    refine List.filterMap_congr fun e he => ?_
    unfold sharedStyles? correlationOf? placesIn placesOf pairsOf
    rw [h.stylesOf_styles he, hnames, hr.canonicalName_eq]
    dsimp only
    split
    · simp [List.map_map, Function.comp_def]
    · rfl

/-- Every dynamic pair is among the styles that are named. -/
theorem styleName_mem (hreplay : s.replay registry = .ok a) (h : s.Accepted) {x : StyleRef}
    (hx : x ∈ pairsOf (s.elements.flatMap WalkElement.dynamic)) : s.styleName x ∈ s.styleNames := by
  have hr := replayed_of_replay hreplay
  have hdynamic : x ∈ a.dynamic :=
    (hr.mem_dynamic x).2 ((exists_stylesOf_iff fun e he => h.stylesOf_dynamic he).2 hx)
  have hfound : x ∈ pairsOf (s.elements.flatMap WalkElement.styles) :=
    (exists_stylesOf_iff fun e he => h.stylesOf_styles he).1
      ((hr.mem_found x).1 ((coherent_of_replay hreplay).dynamic_found x hdynamic))
  unfold styleNames
  rw [List.mem_mergeSort]
  exact List.mem_map_of_mem hfound

/-- The summary of a walk over stored blocks is the meaning of the script that was read. No lookup
for it fails, every name in it is that of a block, and every dynamic style has a place. -/
theorem summary_of_walk {identifier : String} {d : Datum} {a : Analysis BlockId StyleId}
    (hread : read identifier d = .ok s) (hreplay : s.storedReplay registry = .ok a) :
    ∃ info, registry.rebuild s.template = .ok info ∧
      a.summarize s.stored.store.catalog = s.meaning info ∧
      (∃ a', s.replay registry = .ok a' ∧ a'.summarize? s.catalog = some (s.meaning info)) ∧
      (∀ name ∈ s.bound, ∃ block, Entries.get? s.blocks name = some block ∧
        s.source name = block.source) ∧
      ∀ x ∈ pairsOf (s.elements.flatMap WalkElement.dynamic), s.styleName x ∈ s.styleNames := by
  have h := accepted_of_read hread
  obtain ⟨a', hreplay', hrenamed⟩ := (h.sameOutcome_replay registry).exists_ok hreplay
  obtain ⟨info, hinfo, hrun⟩ := replay_cases hreplay'
  have htemplate : a'.template = info := by
    rw [← run_of_runAll hrun, template_run]
    rfl
  have hmeaning : a'.summarize s.catalog = s.meaning info := by
    rw [summarize_eq_meaning h hreplay', htemplate]
  refine ⟨info, hinfo, ?_, ⟨a', hreplay', ?_⟩, fun name hname => ?_, fun x hx => ?_⟩
  · rw [← hrenamed.summarize_eq, hmeaning]
  · rw [summarize?_eq_some _ (coherent_of_replay hreplay'), hmeaning]
  · obtain ⟨block, hblock⟩ := Entries.mem_keys_iff.1 (h.bound_declared name hname)
    refine ⟨block, hblock, ?_⟩
    unfold source
    rw [hblock]
    rfl
  · exact styleName_mem hreplay' h hx

/-- A script with blanks around references, a reference twice, a block that is not bound and one
that is given by its source alone. -/
def threeBlocks : WalkScript where
  template := ⟨TemplateKind.base.typeName, .str "page", none⟩
  blocks := [("a", ⟨"a.css", OrderedSet.ofList [".x", ".y"], []⟩),
    ("b", ⟨"a.css", OrderedSet.ofList [".x"], []⟩), ("c", ⟨"c.css", ∅, []⟩)]
  bound := ["a", "c"]
  elements := [⟨[" a.x ", "b.x", "a.x"], []⟩, ⟨["a.y"], ["a.x", "a.y "]⟩]

/-- The value that the script is read from. -/
def threeBlocksDatum : Datum :=
  .ofFields [
    ("blocks", .ofFields [
      ("a", .ofFields [("source", .str "a.css"), ("styles", .ofStrings [".x", ".y"])]),
      ("b", .ofFields [("source", .str "a.css"), ("styles", .ofStrings [".x"]),
        ("bind", .bool false)]),
      ("c", .str "c.css")]),
    ("elements", .list none [.ofStrings [" a.x ", "b.x", "a.x"],
      .ofFields [("styles", .ofStrings ["a.y"]), ("dynamic", .ofStrings ["a.x", "a.y "])]])]

theorem styleNames_threeBlocks : threeBlocks.styleNames = [".x", "a.x", "a.y"] :=
  mergeSort_eq_of_perm (by decide) (by decide)

theorem placesOf_threeBlocks {pairs : List StyleRef} {places : List Nat}
    (hsorted : places.Pairwise (· ≤ ·))
    (h : (pairs.map fun x => [".x", "a.x", "a.y"].idxOf (threeBlocks.styleName x)).Perm places) :
    threeBlocks.placesOf pairs = places := by
  unfold placesOf
  rw [styleNames_threeBlocks]
  exact mergeSort_eq_of_perm h hsorted

theorem summary_of_walk_threeBlocks :
    read "page" threeBlocksDatum = .ok threeBlocks ∧
      ∃ a, threeBlocks.storedReplay .initial = .ok a ∧
        a.summarize threeBlocks.stored.store.catalog =
          { template := ⟨TemplateKind.base.typeName, .str "page", none⟩
            blocks := [("a", "a.css"), ("c", "c.css")]
            stylesFound := [".x", "a.x", "a.y"]
            dynamicStyles := [1, 2]
            styleCorrelations := [[0, 1]] } := by
  have hread : read "page" threeBlocksDatum = .ok threeBlocks := rfl
  obtain ⟨a, hreplay⟩ : ∃ a, threeBlocks.storedReplay .initial = .ok a := ⟨_, rfl⟩
  obtain ⟨info, hinfo, hsummary, -⟩ := summary_of_walk hread hreplay
  refine ⟨hread, a, hreplay, hsummary.trans ?_⟩
  cases hinfo
  refine Summary.eq_of_parts rfl rfl styleNames_threeBlocks ?_ ?_
  · exact placesOf_threeBlocks (by decide) (by decide)
  · have hplaces : threeBlocks.placesOf (pairsOf [" a.x ", "b.x", "a.x"]) = [0, 1] :=
      placesOf_threeBlocks (by decide) (by decide)
    exact congrArg (fun places => [places]) hplaces

end WalkScript

end StyleUsage
