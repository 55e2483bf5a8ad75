import StyleUsage.Proofs.Walk.Meaning
import StyleUsage.Proofs.Walk.Rearranged

/-!
# The summary of rearranged walk data

What the summary of a walk says depends on the sets of references, of bound names and of declared
blocks alone, except for the order of the correlations. So summaries of a walk and of rearranged
data have everything in common, but the correlations are in the order in which the elements of two
styles or more are now (`summary_of_rearranged`). If these keep their order, the canonical text is
the same.
-/

namespace StyleUsage

namespace WalkScript

open Analysis Datum

variable {identifier : String} {d d' : Datum} {s s' : WalkScript}

/-! ## Scripts with the same references -/

/-- Two scripts declare, bind and refer to the same. -/
structure SameSets (s s' : WalkScript) : Prop extends SameHead s s' where
  styles : ∀ r, r ∈ s.elements.flatMap WalkElement.styles ↔
    r ∈ s'.elements.flatMap WalkElement.styles
  dynamic : ∀ r, r ∈ s.elements.flatMap WalkElement.dynamic ↔
    r ∈ s'.elements.flatMap WalkElement.dynamic

theorem pairsOf_perm {rs rs' : List String} (h : ∀ r, r ∈ rs ↔ r ∈ rs') :
    (pairsOf rs).Perm (pairsOf rs') := by
  refine (List.perm_ext_iff_of_nodup (nodup_pairsOf rs) (nodup_pairsOf rs')).2 fun x => ?_
  rw [mem_pairsOf, mem_pairsOf]
  exact exists_congr fun r => and_congr_left fun _ => h r

theorem SameHead.styleName_eq (h : SameHead s s') : s.styleName = s'.styleName := by
  funext x
  unfold styleName
  rw [if_congr h.blocks.1.mem_iff rfl rfl]

namespace SameSets

theorem styleNames_eq (h : SameSets s s') : s.styleNames = s'.styleNames := by
  unfold styleNames
  rw [h.styleName_eq]
  exact mergeSort_eq_iff_perm.2 ((pairsOf_perm h.styles).map _)

theorem placesOf_eq (h : SameSets s s') {xs ys : List StyleRef} (hperm : xs.Perm ys) :
    s.placesOf xs = s'.placesOf ys := by
  unfold placesOf
  rw [h.styleNames_eq, h.styleName_eq]
  exact mergeSort_eq_iff_perm.2 (hperm.map _)

theorem correlationOf?_eq (h : SameSets s s') {e e' : WalkElement} (he : SameMembers e e') :
    s.correlationOf? e = s'.correlationOf? e' := by
  have hperm := pairsOf_perm he.styles
  unfold correlationOf?
  rw [hperm.length_eq, h.placesOf_eq hperm]

/-- The blocks of the meanings say the same under every name. -/
theorem blocks_perm (h : SameSets s s') (template template' : TemplateInfo) :
    (s.meaning template).blocks.Perm (s'.meaning template').blocks := by
  show (s.bound.eraseDups.map _).Perm (s'.bound.eraseDups.map _)
  rw [h.source_eq]
  exact (eraseDups_perm fun name => h.blocks.1.mem_iff).map _

end SameSets

theorem nodup_keys_meaning (template : TemplateInfo) :
    (Entries.keys (s.meaning template).blocks).Nodup := by
  show ((s.bound.eraseDups.map fun name => (name, s.source name)).map Prod.fst).Nodup
  rw [List.map_map]
  exact (List.map_id _).symm ▸ nodup_eraseDups s.bound

/-! ## Correlations -/

/-- Whether a value is that of an element with two styles or more. -/
def HasTwoStyles (item : Datum) : Prop :=
  ∃ e, ElementReadsAs item e ∧ 1 < (pairsOf e.styles).length

variable (s) in
/-- What is told of the element of a value. -/
def correlationIn? (item : Datum) : Option (List Nat) :=
  match readElement 0 item with
  | .ok e => s.correlationOf? e
  | .error _ => none

theorem correlationIn?_eq {item : Datum} {e : WalkElement} (h : ElementReadsAs item e) :
    s.correlationIn? item = s.correlationOf? e := by
  unfold correlationIn?
  rw [readElement_ok_iff.2 h]

theorem isSome_correlationIn? {item : Datum} :
    (s.correlationIn? item).isSome ↔ HasTwoStyles item := by
  unfold HasTwoStyles
  constructor
  · intro h
    unfold correlationIn? at h
    cases hread : readElement 0 item with
    | error cause => rw [hread] at h; cases h
    | ok e =>
      refine ⟨e, readElement_ok_iff.1 hread, ?_⟩
      rw [hread] at h
      by_contra hlen
      dsimp only at h
      unfold correlationOf? at h
      rw [if_neg hlen] at h
      cases h
  · rintro ⟨e, he, hlen⟩
    rw [correlationIn?_eq he]
    unfold correlationOf?
    rw [if_pos hlen]
    rfl

/-- The correlations of a script are told of the elements that have references. -/
theorem correlations_of_read (h : read identifier d = .ok s) :
    s.elements.filterMap s.correlationOf? = (fullElements d).filterMap s.correlationIn? := by
  obtain ⟨items, hitems, hall⟩ := elements_of_read h
  unfold fullElements
  rw [hitems, List.filterMap_filter,
    ← filterMap_eq_of_forall₂ hall fun item e he => correlationIn?_eq he]
  refine List.filterMap_congr fun item _ => ?_
  split
  · rfl
  · next hnone => exact correlationIn?_eq (elementReadsAs_of_not_hasReference hnone)

theorem correlationIn?_eq_none {item : Datum} (h : ¬ ∃ e, ElementReadsAs item e) :
    s.correlationIn? item = none := by
  unfold correlationIn?
  cases hread : readElement 0 item with
  | error cause => rfl
  | ok e => exact absurd ⟨e, readElement_ok_iff.1 hread⟩ h

theorem correlationIn?_congr (h : SameSets s s') {item item' : Datum}
    (hitem : SameElement item item') : s.correlationIn? item = s'.correlationIn? item' := by
  by_cases hread : ∃ e, ElementReadsAs item e
  · obtain ⟨e, he⟩ := hread
    obtain ⟨e', he', hsame⟩ := hitem.reads he
    rw [correlationIn?_eq he, correlationIn?_eq he', h.correlationOf?_eq hsame]
  · have hread' : ¬ ∃ e, ElementReadsAs item' e := by
      rintro ⟨e', he'⟩
      obtain ⟨e, he, -⟩ := hitem.symm.reads he'
      exact hread ⟨e, he⟩
    rw [correlationIn?_eq_none hread, correlationIn?_eq_none hread']

/-- Items that a permutation keeps in order are kept in order. -/
theorem filterMap_ofFn_of_ordered {n : Nat} {γ : Type} {p : Equiv.Perm (Fin n)}
    {f : Fin n → Option γ}
    (h : ∀ i j, i < j → (f (p i)).isSome → (f (p j)).isSome → p i < p j) :
    (List.ofFn p).filterMap f = (List.finRange n).filterMap f := by
  have hkept : ∀ items : List (Fin n),
      items.filterMap f = (items.filter fun i => (f i).isSome).filterMap f := by
    intro items
    rw [List.filterMap_filter]
    refine List.filterMap_congr fun i _ => ?_
    cases f i <;> rfl
  -- The items that are kept are in ascending order on both sides.
  have hperm : (List.ofFn p).Perm (List.finRange n) := by
    have hid := Equiv.Perm.ofFn_comp_perm p id
    rwa [List.ofFn_id] at hid
  have hsorted : ((List.ofFn p).filter fun i => (f i).isSome).Pairwise (· ≤ ·) := by
    rw [List.pairwise_filter, List.pairwise_ofFn]
    exact fun i j hij hi hj => (h i j hij hi hj).le
  have hsorted' : ((List.finRange n).filter fun i => (f i).isSome).Pairwise (· ≤ ·) :=
    ((List.pairwise_lt_finRange n).imp fun hij => hij.le).filter _
  rw [hkept, hkept (List.finRange n), (hperm.filter _).eq_of_pairwise' hsorted hsorted']

/-! ## Summaries -/

variable {p : Equiv.Perm (Fin (fullElements d).length)}

theorem Rearranged.sameSets (h : Rearranged d d' p) (hread : read identifier d = .ok s)
    (hread' : read identifier d' = .ok s') (hhead : SameHead s s') : SameSets s s' where
  toSameHead := hhead
  styles r := by
    rw [mem_flatMap_iff_refers hread isPart_styles, mem_flatMap_iff_refers hread' isPart_styles,
      h.refers_iff isPart_styles]
  dynamic r := by
    rw [mem_flatMap_iff_refers hread isPart_dynamic, mem_flatMap_iff_refers hread' isPart_dynamic,
      h.refers_iff isPart_dynamic]

/-- Rearranged data tells of the elements in their new order. -/
theorem Rearranged.correlations (h : Rearranged d d' p) (hread : read identifier d = .ok s)
    (hread' : read identifier d' = .ok s') (hsets : SameSets s s') :
    let entry := fun i : Fin (fullElements d).length => s.correlationIn? ((fullElements d).get i)
    s.elements.filterMap s.correlationOf? = (List.finRange _).filterMap entry ∧
      s'.elements.filterMap s'.correlationOf? = (List.ofFn p).filterMap entry := by
  intro entry
  have hitems : ∀ is : List (Fin (fullElements d).length),
      (is.map (fullElements d).get).filterMap s.correlationIn? = is.filterMap entry :=
    fun is => List.filterMap_map ..
  constructor
  · rw [correlations_of_read hread, ← hitems, List.map_get_finRange]
  · rw [correlations_of_read hread', ← hitems, List.map_ofFn]
    exact (filterMap_eq_of_forall₂ h.elements fun _ _ hitem =>
      correlationIn?_congr hsets hitem).symm

/-- Rearranged data is read if the data is, and the summaries of both walks have the template, the
blocks, the styles and the dynamic styles in common. Their correlations are those of the elements of
two styles or more, each in the order of its elements. If the permutation keeps the order of these
elements, then the canonical texts are one text. -/
theorem summary_of_rearranged (h : Rearranged d d' p) (hread : read identifier d = .ok s)
    (hkeys : ((blockEntries d).map fun x => x.1.display).Nodup) :
    ∃ s', read identifier d' = .ok s' ∧ ∀ registry a a', s.replay registry = .ok a →
      s'.replay registry = .ok a' →
      let w := a.summarize s.catalog
      let w' := a'.summarize s'.catalog
      w.template = w'.template ∧
      (∀ name, Entries.get? w.blocks name = Entries.get? w'.blocks name) ∧
      w.stylesFound = w'.stylesFound ∧ w.dynamicStyles = w'.dynamicStyles ∧
      (∃ entry : Fin (fullElements d).length → Option (List Nat),
        (∀ i, (entry i).isSome ↔ HasTwoStyles ((fullElements d).get i)) ∧
        w.styleCorrelations = (List.finRange _).filterMap entry ∧
        w'.styleCorrelations = (List.ofFn p).filterMap entry) ∧
      ((∀ i j, i < j → HasTwoStyles ((fullElements d).get (p i)) →
        HasTwoStyles ((fullElements d).get (p j)) → p i < p j) →
        w.canonical = w'.canonical ∧ w.digest = w'.digest) := by
  obtain ⟨s', hread', hhead⟩ := read_of_rearranged h hread hkeys
  refine ⟨s', hread', fun registry a a' hreplay hreplay' => ?_⟩
  intro w w'
  have hw : w = s.meaning a.template := summarize_eq_meaning (accepted_of_read hread) hreplay
  have hw' : w' = s'.meaning a'.template :=
    summarize_eq_meaning (accepted_of_read hread') hreplay'
  have hsets := h.sameSets hread hread' hhead
  have htemplate : w.template = w'.template :=
    congrArg TemplateInfo.describe (template_of_replay hhead.template hreplay hreplay')
  have hblocks : w.blocks.Perm w'.blocks := by
    rw [hw, hw']
    exact hsets.blocks_perm a.template a'.template
  have hkeysBlocks : (Entries.keys w.blocks).Nodup := hw ▸ nodup_keys_meaning a.template
  have hfound : w.stylesFound = w'.stylesFound := by
    rw [hw, hw']
    exact hsets.styleNames_eq
  have hdynamic : w.dynamicStyles = w'.dynamicStyles := by
    rw [hw, hw']
    exact hsets.placesOf_eq (pairsOf_perm hsets.dynamic)
  let entry := fun i : Fin (fullElements d).length => s.correlationIn? ((fullElements d).get i)
  obtain ⟨hcorrelations, hcorrelations'⟩ : w.styleCorrelations = (List.finRange _).filterMap entry ∧
      w'.styleCorrelations = (List.ofFn p).filterMap entry := by
    rw [hw, hw']
    exact h.correlations hread hread' hsets
  refine ⟨htemplate, ?_, hfound, hdynamic,
    ⟨entry, fun i => isSome_correlationIn?, hcorrelations, hcorrelations'⟩, fun horder => ?_⟩
  · exact (Entries.perm_iff_get? hkeysBlocks (Entries.nodup_keys_of_perm hkeysBlocks hblocks)).1
      hblocks
  · have hsame : w.styleCorrelations = w'.styleCorrelations := by
      rw [hcorrelations, hcorrelations']
      refine (filterMap_ofFn_of_ordered fun i j hij hi hj => ?_).symm
      exact horder i j hij (isSome_correlationIn?.1 hi) (isSome_correlationIn?.1 hj)
    have hcanonical : w.canonical = w'.canonical :=
      Summary.canonical_eq_of_perm htemplate hkeysBlocks hblocks hfound hdynamic hsame
    exact ⟨hcanonical, congrArg (Except.map Digest.ofText) hcanonical⟩

/-! ## Two arrangements -/

theorem hasTwoStyles_iff {item : Datum} {e : WalkElement} (h : ElementReadsAs item e) :
    HasTwoStyles item ↔ 1 < (pairsOf e.styles).length := by
  refine ⟨?_, fun hlen => ⟨e, h, hlen⟩⟩
  rintro ⟨e', he', hlen⟩
  rwa [elementReadsAs_unique h he']

/-- Walk data of two blocks and of four elements, one of them without a reference and one with a
single style. -/
def plainDatum : Datum :=
  .ofFields [
    ("blocks", .ofFields [
      ("a", .ofFields [("source", .str "a.css"), ("styles", .ofStrings [".x", ".y", ".z"]),
        ("depends_on", .ofStrings ["b"])]),
      ("b", .str "b.css")]),
    ("elements", .list none [.ofStrings ["a.x", "a.y"], .ofStrings [], .ofStrings ["a.y"],
      .ofFields [("styles", .ofStrings ["a.x", "a.z"]), ("dynamic", .ofStrings ["a.x"])]])]

/-- The script that is read from the data. -/
def plain : WalkScript where
  template := ⟨TemplateKind.base.typeName, .str "page", none⟩
  blocks := [("a", ⟨"a.css", OrderedSet.ofList [".x", ".y", ".z"], ["b"]⟩), ("b", ⟨"b.css", ∅, []⟩)]
  bound := ["a", "b"]
  elements := [⟨["a.x", "a.y"], []⟩, ⟨[], []⟩, ⟨["a.y"], []⟩, ⟨["a.x", "a.z"], ["a.x"]⟩]

/-- Walk data with the blocks in the other order and with texts repeated. -/
def turnedDatum (elements : List Datum) : Datum :=
  .ofFields [
    ("blocks", .ofFields [
      ("b", .str "b.css"),
      ("a", .ofFields [("source", .str "a.css"), ("styles", .ofStrings [".z", ".y", ".x", ".z"]),
        ("depends_on", .ofStrings ["b", "b"])])]),
    ("elements", .list none elements)]

/-- A script that is read from such data. -/
def turned (elements : List WalkElement) : WalkScript where
  template := ⟨TemplateKind.base.typeName, .str "page", none⟩
  blocks := [("b", ⟨"b.css", ∅, []⟩),
    ("a", ⟨"a.css", OrderedSet.ofList [".z", ".y", ".x", ".z"], ["b", "b"]⟩)]
  bound := ["b", "a"]
  elements

theorem sameItems_ofStrings {texts texts' : List String} (h : ∀ r, r ∈ texts ↔ r ∈ texts') :
    SameItems (.ofStrings texts) (.ofStrings texts') := by
  refine ⟨texts.map .str, texts'.map .str, rfl, rfl, fun x => ?_⟩
  rw [List.mem_map, List.mem_map]
  exact exists_congr fun r => and_congr_left fun _ => h r

theorem rearranged_turned {elements : List Datum}
    {p : Equiv.Perm (Fin (fullElements plainDatum).length)}
    (h : List.Forall₂ SameElement (List.ofFn fun i => (fullElements plainDatum).get (p i))
      (elements.filter hasReference)) : Rearranged plainDatum (turnedDatum elements) p where
  isWalk := ⟨Option.some_ne_none _, Option.some_ne_none _, Option.some_ne_none _⟩
  template := rfl
  blocks := by
    refine ⟨_, List.Perm.swap _ _ [], .cons ⟨rfl, .inl rfl⟩ (.cons ⟨rfl, .inr ?_⟩ .nil)⟩
    refine ⟨none, _, none, _, rfl, rfl, rfl, rfl, ?_, ?_⟩
    · show SameItems (.ofStrings [".x", ".y", ".z"]) (.ofStrings [".z", ".y", ".x", ".z"])
      exact sameItems_ofStrings fun r => by simp only [List.mem_cons]; tauto
    · show SameItems (.ofStrings ["b"]) (.ofStrings ["b", "b"])
      exact sameItems_ofStrings fun r => by simp
  elements := h

/-- The first element of the data with its references in another order. -/
def turnedFirst : Datum := .ofStrings ["a.y", "a.x", "a.y"]

/-- The last element of the data with its references in another order. -/
def turnedLast : Datum :=
  .ofFields [("styles", .ofStrings ["a.z", "a.x"]), ("dynamic", .ofStrings ["a.x", "a.x"])]

theorem sameElement_turnedFirst : SameElement (.ofStrings ["a.x", "a.y"]) turnedFirst :=
  .inl (sameItems_ofStrings fun r => by simp only [List.mem_cons]; tauto)

theorem sameElement_turnedLast : SameElement
    (.ofFields [("styles", .ofStrings ["a.x", "a.z"]), ("dynamic", .ofStrings ["a.x"])])
    turnedLast := by
  refine .inr ⟨none, _, none, _, rfl, rfl, ?_, ?_⟩
  · show SameItems (.ofStrings ["a.x", "a.z"]) (.ofStrings ["a.z", "a.x"])
    exact sameItems_ofStrings fun r => by simp [or_comm]
  · show SameItems (.ofStrings ["a.x"]) (.ofStrings ["a.x", "a.x"])
    exact sameItems_ofStrings fun r => by simp

theorem sameElement_rfl (texts : List String) :
    SameElement (.ofStrings texts) (.ofStrings texts) :=
  .inl (sameItems_ofStrings fun _ => Iff.rfl)

theorem rearranged_backward :
    Rearranged plainDatum (turnedDatum [turnedLast, .ofStrings ["a.y"], turnedFirst, .null])
      Fin.revPerm :=
  rearranged_turned (.cons sameElement_turnedLast
    (.cons (sameElement_rfl ["a.y"]) (.cons sameElement_turnedFirst .nil)))

/-- The element with a single style is put first. -/
def singleFirstOrder : Equiv.Perm (Fin (fullElements plainDatum).length) :=
  Equiv.swap ⟨0, by decide⟩ ⟨1, by decide⟩

theorem rearranged_singleFirst :
    Rearranged plainDatum (turnedDatum [.ofStrings ["a.y"], turnedFirst, .null, turnedLast])
      singleFirstOrder :=
  rearranged_turned (.cons (sameElement_rfl ["a.y"])
    (.cons sameElement_turnedFirst (.cons sameElement_turnedLast .nil)))

/-- The two elements of two styles keep their order then. -/
theorem ordered_singleFirst (i j : Fin (fullElements plainDatum).length) (hij : i < j)
    (htwo : HasTwoStyles ((fullElements plainDatum).get (singleFirstOrder i))) :
    singleFirstOrder i < singleFirstOrder j := by
  have hsingle : ∀ q : Fin (fullElements plainDatum).length,
      HasTwoStyles ((fullElements plainDatum).get q) → q.val ≠ 1 := by
    rintro ⟨q, hq⟩ htwo rfl
    have hreads : ElementReadsAs (fullElements plainDatum)[1] ⟨["a.y"], []⟩ := .inl ⟨rfl, rfl⟩
    exact absurd ((hasTwoStyles_iff hreads).1 htwo) (by decide)
  have hcases : ∀ i j, i < j →
      (singleFirstOrder i).val = 1 ∨ singleFirstOrder i < singleFirstOrder j := by
    decide
  exact (hcases i j hij).resolve_left (hsingle _ htwo)

theorem summary_of_rearranged_turned :
    let backward := turned [⟨["a.z", "a.x"], ["a.x", "a.x"]⟩, ⟨["a.y"], []⟩,
      ⟨["a.y", "a.x", "a.y"], []⟩, ⟨[], []⟩]
    let singleFirst := turned [⟨["a.y"], []⟩, ⟨["a.y", "a.x", "a.y"], []⟩, ⟨[], []⟩,
      ⟨["a.z", "a.x"], ["a.x", "a.x"]⟩]
    read "page" plainDatum = .ok plain ∧
      ∃ a b c, plain.replay .initial = .ok a ∧ backward.replay .initial = .ok b ∧
        singleFirst.replay .initial = .ok c ∧
        (b.summarize backward.catalog).stylesFound = (a.summarize plain.catalog).stylesFound ∧
        (b.summarize backward.catalog).styleCorrelations =
          (a.summarize plain.catalog).styleCorrelations.reverse ∧
        (c.summarize singleFirst.catalog).canonical = (a.summarize plain.catalog).canonical := by
  intro backward singleFirst
  have hread : read "page" plainDatum = .ok plain := rfl
  have hkeys : ((blockEntries plainDatum).map fun x => x.1.display).Nodup := by decide
  obtain ⟨a, hreplay⟩ : ∃ a, plain.replay .initial = .ok a := ⟨_, rfl⟩
  obtain ⟨b, hbackward⟩ : ∃ b, backward.replay .initial = .ok b := ⟨_, rfl⟩
  obtain ⟨c, hfirst⟩ : ∃ c, singleFirst.replay .initial = .ok c := ⟨_, rfl⟩
  obtain ⟨s, hs, hall⟩ := summary_of_rearranged rearranged_backward hread hkeys
  obtain rfl : s = backward := Except.ok.inj (hs.symm.trans rfl)
  obtain ⟨-, -, hfound, -, ⟨entry, -, hcorrelations, hcorrelations'⟩, -⟩ :=
    hall _ a b hreplay hbackward
  obtain ⟨s', hs', hall'⟩ := summary_of_rearranged rearranged_singleFirst hread hkeys
  obtain rfl : s' = singleFirst := Except.ok.inj (hs'.symm.trans rfl)
  obtain ⟨-, -, -, -, -, hcanonical⟩ := hall' _ a c hreplay hfirst
  refine ⟨hread, a, b, c, hreplay, hbackward, hfirst, hfound.symm, ?_,
    (hcanonical fun i j hij hi _ => ordered_singleFirst i j hij hi).1.symm⟩
  rw [hcorrelations, hcorrelations', ← List.filterMap_reverse]
  rfl

end WalkScript

end StyleUsage
