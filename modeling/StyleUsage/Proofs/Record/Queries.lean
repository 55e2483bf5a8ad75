import StyleUsage.Proofs.Collection.OrderedSet
import StyleUsage.Proofs.Record.Reload

/-!
# What a record answers

A record knows names and places where an analysis knows styles. Both give one answer: a name was
found if some found style has it, it is dynamic if some dynamic style has it, and names are
correlated if some correlation of two styles or more has a style for each of them
(`record_answers_by_name`). So a record and its analysis agree on styles as long as no two found
styles share a name.
-/

namespace StyleUsage

/-! ## Places and names -/

namespace Analysis

variable {sorted names : List String} {n : String}

/-- The place of a name is among the places of names exactly if the name is among the names. -/
theorem idxOf_mem_placesIn_iff (hn : n ∈ sorted) :
    sorted.idxOf n ∈ placesIn sorted names ↔ n ∈ names := by
  rw [(placesIn_perm sorted names).mem_iff, List.mem_map]
  constructor
  · rintro ⟨m, hm, hplace⟩
    rwa [← (List.idxOf_inj hn).1 hplace.symm] at hm
  · intro hmem
    exact ⟨n, hmem, rfl⟩

end Analysis

/-! ## Records that are read from summaries -/

namespace Record

variable {registry : Registry} {r : Record}

/-- A template that is read from a descriptor has a text for its identifier. -/
theorem identifier_text_of_readTemplate {d d' : Descriptor} (h : readTemplate d.toDatum = .ok d') :
    ∃ text, d.identifier = .str text := by
  obtain ⟨type, identifier, data⟩ := d
  cases identifier with
  | str text => exact ⟨text, rfl⟩
  | _ => cases data <;> cases h

/-- A record that is read from a summary has its names and places. -/
theorem parts_of_read {s : Summary} (hs : ∀ text, s.template.identifier = .str text → s.WellFormed)
    (h : read registry s.toDatum = .ok r) :
    r.stylesFound = s.stylesFound ∧ r.dynamicStyles = s.dynamicStyles ∧
      r.styleCorrelations = s.styleCorrelations := by
  have htext : ∃ text, s.template.identifier = .str text := by
    rw [read_toDatum_parts] at h
    cases ht : readTemplate s.template.toDatum with
    | error e => rw [ht] at h; cases h
    | ok d => exact identifier_text_of_readTemplate ht
  obtain ⟨text, htext⟩ := htext
  rw [read_toDatum_eq (hs text htext)] at h
  cases hr : registry.rebuild s.template with
  | error e => rw [hr] at h; cases h
  | ok info =>
    rw [hr] at h
    cases h
    exact ⟨rfl, rfl, rfl⟩

theorem wasFound_iff {n : String} : r.wasFound n = true ↔ n ∈ r.stylesFound :=
  List.contains_iff_mem

theorem isDynamic_iff {n : String} :
    r.isDynamic n = true ↔ n ∈ r.stylesFound ∧ r.stylesFound.idxOf n ∈ r.dynamicStyles := by
  unfold isDynamic placeOf?
  by_cases hn : n ∈ r.stylesFound
  · rw [Analysis.idxOf?_eq_some hn]
    simp [hn]
  · rw [List.idxOf?_eq_none_iff.2 hn]
    simp [hn]

theorem areCorrelated_iff {names : List String} : r.areCorrelated names = true ↔
    (∀ n ∈ names, n ∈ r.stylesFound) ∧
      ∃ c ∈ r.styleCorrelations, ∀ n ∈ names, r.stylesFound.idxOf n ∈ c := by
  unfold areCorrelated
  by_cases hall : ∀ n ∈ names, n ∈ r.stylesFound
  · have hplaces : names.mapM r.placeOf? = some (names.map r.stylesFound.idxOf) :=
      mapM_eq_pure (m := Option) fun n hn => Analysis.idxOf?_eq_some (hall n hn)
    rw [hplaces]
    simpa using fun _ _ _ => hall
  · obtain ⟨n, hn, hnot⟩ : ∃ n ∈ names, n ∉ r.stylesFound := by simpa using hall
    rw [mapM_eq_none (g := r.placeOf?) (List.idxOf?_eq_none_iff.2 hnot) hn]
    simp only [Bool.false_eq_true, false_iff, not_and]
    exact fun h => absurd h hall

end Record

/-! ## The record of an analysis -/

namespace Analysis

variable {β σ : Type} [DecidableEq β] (c : Catalog β σ) {a : Analysis β σ}

theorem mem_stylesFound_iff {n : String} :
    n ∈ (a.summarize c).stylesFound ↔ ∃ x ∈ a.found, a.canonicalName c x = n := by
  show n ∈ (a.namesOf c a.found).mergeSort ↔ _
  rw [List.mem_mergeSort]
  exact List.mem_map

/-- The first place of a name is among the places of styles exactly if a style has the name. -/
theorem place_mem_iff {styles : OrderedSet σ} {n : String}
    (hn : n ∈ (a.summarize c).stylesFound) :
    (a.summarize c).stylesFound.idxOf n ∈
        placesIn (a.summarize c).stylesFound (a.namesOf c styles) ↔
      ∃ x ∈ styles, a.canonicalName c x = n := by
  rw [idxOf_mem_placesIn_iff hn]
  exact List.mem_map

/-- Some correlation in the summary has the places of some names exactly if some correlation of two
styles or more has a style for each of them. -/
theorem exists_correlation_iff {names : List String}
    (hnames : ∀ n ∈ names, n ∈ (a.summarize c).stylesFound) :
    (∃ places ∈ (a.summarize c).styleCorrelations,
        ∀ n ∈ names, (a.summarize c).stylesFound.idxOf n ∈ places) ↔
      ∃ s ∈ a.correlations, 1 < s.size ∧ ∀ n ∈ names, ∃ x ∈ s, a.canonicalName c x = n := by
  constructor
  · rintro ⟨places, hplaces, hall⟩
    obtain ⟨s, hs, rfl⟩ := List.mem_map.1 hplaces
    obtain ⟨hs, hsize⟩ := List.mem_filter.1 hs
    exact ⟨s, hs, of_decide_eq_true hsize,
      fun n hn => (place_mem_iff c (hnames n hn)).1 (hall n hn)⟩
  · rintro ⟨s, hs, hsize, hall⟩
    refine ⟨_, List.mem_map_of_mem (List.mem_filter.2 ⟨hs, decide_eq_true hsize⟩), ?_⟩
    exact fun n hn => (place_mem_iff c (hnames n hn)).2 (hall n hn)

section Answers

variable {registry : Registry} {r : Record} (h : a.Coherent)
  (hread : Record.read registry (a.summarize c).toDatum = .ok r)

include h hread

theorem wasFound_of_read (n : String) :
    r.wasFound n = true ↔ ∃ x ∈ a.found, a.canonicalName c x = n := by
  obtain ⟨hfound, -, -⟩ := Record.parts_of_read (fun _ ht => wellFormed_summarize c h ht) hread
  rw [Record.wasFound_iff, hfound, mem_stylesFound_iff]

theorem isDynamic_of_read (n : String) :
    r.isDynamic n = true ↔ ∃ x ∈ a.dynamic, a.canonicalName c x = n := by
  obtain ⟨hfound, hdynamic, -⟩ :=
    Record.parts_of_read (fun _ ht => wellFormed_summarize c h ht) hread
  rw [Record.isDynamic_iff, hfound, hdynamic]
  constructor
  · rintro ⟨hn, hplace⟩
    exact (place_mem_iff c hn).1 hplace
  · rintro ⟨x, hx, rfl⟩
    have hn := (mem_stylesFound_iff c).2 ⟨x, h.dynamic_found x hx, rfl⟩
    exact ⟨hn, (place_mem_iff c hn).2 ⟨x, hx, rfl⟩⟩

theorem areCorrelated_of_read (names : List String) : r.areCorrelated names = true ↔
    ∃ s ∈ a.correlations, 1 < s.size ∧ ∀ n ∈ names, ∃ x ∈ s, a.canonicalName c x = n := by
  obtain ⟨hfound, -, hcorrelations⟩ :=
    Record.parts_of_read (fun _ ht => wellFormed_summarize c h ht) hread
  rw [Record.areCorrelated_iff, hfound, hcorrelations]
  constructor
  · rintro ⟨hnames, hplaces⟩
    exact (exists_correlation_iff c hnames).1 hplaces
  · rintro ⟨s, hs, hsize, hall⟩
    have hnames : ∀ n ∈ names, n ∈ (a.summarize c).stylesFound := by
      intro n hn
      obtain ⟨x, hx, rfl⟩ := hall n hn
      exact (mem_stylesFound_iff c).2 ⟨x, h.correlation_found s hs x hx, rfl⟩
    exact ⟨hnames, (exists_correlation_iff c hnames).2 ⟨s, hs, hsize, hall⟩⟩

end Answers

/-! ## Styles with names of their own -/

/-- No two found styles share a name. -/
def NamesApart (a : Analysis β σ) : Prop :=
  ∀ x ∈ a.found, ∀ y ∈ a.found, a.canonicalName c x = a.canonicalName c y → x = y

variable {c}

/-- Among found styles with names of their own, one of some name is in a set exactly if the style
of this name is. -/
theorem NamesApart.exists_name_iff (hapart : a.NamesApart c) {s : OrderedSet σ}
    (hs : ∀ y ∈ s, y ∈ a.found) {x : σ} (hx : x ∈ a.found) :
    (∃ y ∈ s, a.canonicalName c y = a.canonicalName c x) ↔ x ∈ s := by
  constructor
  · rintro ⟨y, hy, hname⟩
    rwa [← hapart y (hs y hy) x hx hname]
  · intro hxs
    exact ⟨x, hxs, rfl⟩

variable [DecidableEq σ] {registry : Registry} {r : Record}

theorem NamesApart.wasFound_eq (hapart : a.NamesApart c) (h : a.Coherent)
    (hread : Record.read registry (a.summarize c).toDatum = .ok r) {x : σ} (hx : x ∈ a.found) :
    r.wasFound (a.canonicalName c x) = a.wasFound x := by
  rw [Bool.eq_iff_iff, wasFound_of_read c h hread, hapart.exists_name_iff (fun _ hy => hy) hx]
  exact (decide_eq_true_iff).symm

theorem NamesApart.isDynamic_eq (hapart : a.NamesApart c) (h : a.Coherent)
    (hread : Record.read registry (a.summarize c).toDatum = .ok r) {x : σ} (hx : x ∈ a.found) :
    r.isDynamic (a.canonicalName c x) = a.isDynamic x := by
  rw [Bool.eq_iff_iff, isDynamic_of_read c h hread, hapart.exists_name_iff h.dynamic_found hx]
  exact (decide_eq_true_iff).symm

omit [DecidableEq β] in
theorem areCorrelated_iff {xs : List σ} :
    a.areCorrelated xs = true ↔ ∃ s ∈ a.correlations, ∀ x ∈ xs, x ∈ s := by
  simp [areCorrelated, OrderedSet.containsAll]

/-- Of two different styles a correlation of one style has only one, so it makes no difference that
the record knows none of those. -/
theorem NamesApart.areCorrelated_eq (hapart : a.NamesApart c) (h : a.Coherent)
    (hread : Record.read registry (a.summarize c).toDatum = .ok r) {xs : List σ}
    (hxs : ∀ x ∈ xs, x ∈ a.found) (hne : ∃ x ∈ xs, ∃ y ∈ xs, x ≠ y) :
    r.areCorrelated (xs.map (a.canonicalName c)) = a.areCorrelated xs := by
  rw [Bool.eq_iff_iff, areCorrelated_of_read c h hread, areCorrelated_iff]
  have hall : ∀ s ∈ a.correlations,
      (∀ n ∈ xs.map (a.canonicalName c), ∃ y ∈ s, a.canonicalName c y = n) ↔ ∀ x ∈ xs, x ∈ s := by
    intro s hs
    rw [List.forall_mem_map]
    exact forall₂_congr fun x hx =>
      hapart.exists_name_iff (h.correlation_found s hs) (hxs x hx)
  constructor
  · rintro ⟨s, hs, -, hnames⟩
    exact ⟨s, hs, (hall s hs).1 hnames⟩
  · rintro ⟨s, hs, hmem⟩
    obtain ⟨x, hx, y, hy, hxy⟩ := hne
    exact ⟨s, hs, OrderedSet.one_lt_size (hmem x hx) (hmem y hy) hxy, (hall s hs).2 hmem⟩

/-- A record that is read from the summary of an analysis, whatever steps led to it, answers by
names what the analysis knows of styles. If no two found styles share a name, both give the same
answers on found styles; on correlations, if at least two of the styles are different. -/
theorem record_answers_by_name {t : TemplateInfo} (steps : List (WalkStep β σ))
    (hread : Record.read registry (((begin t).run steps).summarize c).toDatum = .ok r) :
    let a := (begin t).run steps
    let name := a.canonicalName c
    (∀ n, r.wasFound n = true ↔ ∃ x ∈ a.found, name x = n) ∧
    (∀ n, r.isDynamic n = true ↔ ∃ x ∈ a.dynamic, name x = n) ∧
    (∀ names, r.areCorrelated names = true ↔
      ∃ s ∈ a.correlations, 1 < s.size ∧ ∀ n ∈ names, ∃ x ∈ s, name x = n) ∧
    ((∀ x ∈ a.found, ∀ y ∈ a.found, name x = name y → x = y) →
      (∀ x ∈ a.found, r.wasFound (name x) = a.wasFound x ∧ r.isDynamic (name x) = a.isDynamic x) ∧
      ∀ xs : List σ, (∀ x ∈ xs, x ∈ a.found) → (∃ x ∈ xs, ∃ y ∈ xs, x ≠ y) →
        r.areCorrelated (xs.map name) = a.areCorrelated xs) := by
  intro a name
  have h : a.Coherent := coherent_run t steps
  refine ⟨wasFound_of_read c h hread, isDynamic_of_read c h hread, areCorrelated_of_read c h hread,
    fun hapart => ⟨fun x hx => ⟨?_, ?_⟩, fun xs hxs hne => ?_⟩⟩
  · exact NamesApart.wasFound_eq hapart h hread hx
  · exact NamesApart.isDynamic_eq hapart h hread hx
  · exact NamesApart.areCorrelated_eq hapart h hread hxs hne

/-- Two elements with styles of two blocks, one of them without a local name, a mark, and an element
with a single style. -/
theorem record_answers_by_name_twoBlocks :
    let c : Catalog Nat Nat :=
      ⟨fun b => "block" ++ toString b, [], fun x => x / 10, fun x => "." ++ toString (x % 10)⟩
    let t : TemplateInfo := ⟨.base, .str "page", []⟩
    let steps : List (WalkStep Nat Nat) :=
      [.bind "one" 1, .start, .add 11, .add 21, .mark 21, .finish, .start, .add 12, .finish]
    let a := (begin t).run steps
    let name := a.canonicalName c
    ∃ r, Record.read Registry.initial (a.summarize c).toDatum = .ok r ∧
      ((∀ x ∈ a.found, ∀ y ∈ a.found, name x = name y → x = y) ∧
        (∀ x ∈ [11, 21], x ∈ a.found) ∧ ∃ x ∈ [11, 21], ∃ y ∈ [11, 21], x ≠ y) ∧
      (r.wasFound "one.2" = true ↔ ∃ x ∈ a.found, name x = "one.2") ∧
      (r.isDynamic ".1" = true ↔ ∃ x ∈ a.dynamic, name x = ".1") ∧
      (r.areCorrelated ["one.2"] = true ↔
        ∃ s ∈ a.correlations, 1 < s.size ∧ ∀ n ∈ ["one.2"], ∃ x ∈ s, name x = n) ∧
      r.areCorrelated ([11, 21].map name) = a.areCorrelated [11, 21] := by
  intro c t steps a name
  obtain ⟨r, hr⟩ : ∃ r, Record.read Registry.initial (a.summarize c).toDatum = .ok r :=
    ⟨_, Record.read_toDatum (wellFormed_summarize c (coherent_run t steps) rfl) rfl⟩
  have hapart : ∀ x ∈ a.found, ∀ y ∈ a.found, name x = name y → x = y := by decide
  have hfound : ∀ x ∈ [11, 21], x ∈ a.found := by decide
  have hne : ∃ x ∈ [11, 21], ∃ y ∈ [11, 21], x ≠ y := by decide
  obtain ⟨hwas, hdynamic, hcorrelated, hsame⟩ := record_answers_by_name (c := c) steps hr
  exact ⟨r, hr, ⟨hapart, hfound, hne⟩, hwas _, hdynamic _, hcorrelated _,
    (hsame hapart).2 _ hfound hne⟩

end Analysis

end StyleUsage
