import StyleUsage.Proofs.Record.Queries
import StyleUsage.Proofs.Walk.Meaning
import StyleUsage.Proofs.Walk.References

/-!
# Styles of one name

The name of a style is its fragment behind the alias of its block, or the fragment alone if the
block is not bound. As references are written, the alias can be told from the fragment in a name, so
two styles share a name only if neither has its alias in it (`styleName_eq_iff`): their blocks are
not bound, and their fragments are the same (`canonicalName_eq_iff_unbound`). If this cannot be, no
name and no place is repeated in the summary (`NamesApart.ascending`).
-/

namespace StyleUsage

/-! ## Names that are all different -/

namespace Analysis

variable {β σ : Type} [DecidableEq β] {c : Catalog β σ} {a : Analysis β σ}

theorem NamesApart.nodup_namesOf (hapart : a.NamesApart c) {styles : OrderedSet σ}
    (h : ∀ x ∈ styles, x ∈ a.found) : (a.namesOf c styles).Nodup :=
  styles.nodup.map_on fun x hx y hy hname => hapart x (h x hx) y (h y hy) hname

/-- If no two found styles share a name, every list of a summary is in strict order. -/
theorem NamesApart.ascending (hapart : a.NamesApart c) (h : a.Coherent) :
    (a.summarize c).stylesFound.Pairwise (· < ·) ∧
      (a.summarize c).dynamicStyles.Pairwise (· < ·) ∧
      ∀ places ∈ (a.summarize c).styleCorrelations, places.Pairwise (· < ·) := by
  refine ⟨?_, ?_, ?_⟩
  · exact pairwise_lt_mergeSort (hapart.nodup_namesOf fun _ hx => hx)
  · exact pairwise_lt_placesIn (namesOf_subset c h.dynamic_found)
      (hapart.nodup_namesOf h.dynamic_found)
  · intro places hplaces
    obtain ⟨set, hset, rfl⟩ := List.mem_map.1 hplaces
    have hfound : ∀ x ∈ set, x ∈ a.found := h.correlation_found set (List.mem_of_mem_filter hset)
    exact pairwise_lt_placesIn (namesOf_subset c hfound) (hapart.nodup_namesOf hfound)

end Analysis

namespace WalkScript

open Analysis

variable {s : WalkScript} {registry : Registry}

/-! ## Names of pairs -/

section Pairs

variable {x y : StyleRef} {r r' : String}

/-- In the name of a style that some reference is written for, the part before the fragment is the
alias, or nothing if the alias is not bound. -/
theorem split_styleName (hx : x.WrittenAs r) :
    (s.styleName x).toList.takeWhile (fun c => !startsFragment c) =
        (if x.block ∈ s.bound then x.block else "").toList ∧
      (s.styleName x).toList.dropWhile (fun c => !startsFragment c) = x.fragment.toList := by
  have hplain : IsPlainName (if x.block ∈ s.bound then x.block else "").toList := by
    split
    · exact hx.block_plain
    · intro c hc
      cases hc
  unfold styleName
  rw [String.toList_append]
  exact split_append hplain hx.fragment_starts

/-- Two styles share a name exactly if neither alias is bound and the fragments are the same. -/
theorem styleName_eq_iff (hx : x.WrittenAs r) (hy : y.WrittenAs r') (hne : x ≠ y) :
    s.styleName x = s.styleName y ↔
      x.block ∉ s.bound ∧ y.block ∉ s.bound ∧ x.fragment = y.fragment := by
  constructor
  · intro hname
    obtain ⟨hxlocal, hxfragment⟩ := split_styleName (s := s) hx
    obtain ⟨hylocal, hyfragment⟩ := split_styleName (s := s) hy
    rw [hname] at hxlocal hxfragment
    have hlocal := String.toList_inj.1 (hxlocal.symm.trans hylocal)
    have hfragment := String.toList_inj.1 (hxfragment.symm.trans hyfragment)
    by_cases hxb : x.block ∈ s.bound
    · by_cases hyb : y.block ∈ s.bound
      · rw [if_pos hxb, if_pos hyb] at hlocal
        obtain ⟨xb, xf⟩ := x
        obtain ⟨yb, yf⟩ := y
        exact absurd (congrArg₂ StyleRef.mk hlocal hfragment) hne
      · rw [if_pos hxb, if_neg hyb] at hlocal
        exact absurd hlocal hx.block_ne
    · by_cases hyb : y.block ∈ s.bound
      · rw [if_neg hxb, if_pos hyb] at hlocal
        exact absurd hlocal.symm hy.block_ne
      · exact ⟨hxb, hyb, hfragment⟩
  · rintro ⟨hxb, hyb, hfragment⟩
    unfold styleName
    rw [if_neg hxb, if_neg hyb, hfragment]

variable {a : Analysis String StyleRef}

/-- Some reference is written for a style that a replay finds. -/
theorem Accepted.writtenAs_of_found (h : s.Accepted) (hr : s.Replayed a) (hx : x ∈ a.found) :
    ∃ r, x.WrittenAs r := by
  obtain ⟨e, he, hmem⟩ := (hr.mem_found x).1 hx
  rw [h.stylesOf_styles he] at hmem
  obtain ⟨r, hr, rfl⟩ := List.mem_map.1 hmem
  have hresolve := h.resolve_eq e he r (List.mem_append_left _ hr)
  exact ⟨r, (resolve_ok_iff_writtenAs.1 hresolve).1⟩

/-- No two found styles share a name if those that are not of bound blocks are of one block. -/
theorem Accepted.namesApart (h : s.Accepted) (hr : s.Replayed a)
    (hone : ∀ x ∈ a.found, ∀ y ∈ a.found,
      x.block ∉ s.bound → y.block ∉ s.bound → x.block = y.block) :
    a.NamesApart s.catalog := by
  intro x hx y hy hname
  by_contra hne
  obtain ⟨r, hxr⟩ := h.writtenAs_of_found hr hx
  obtain ⟨r', hyr⟩ := h.writtenAs_of_found hr hy
  rw [hr.canonicalName_eq] at hname
  obtain ⟨hxb, hyb, hfragment⟩ := (styleName_eq_iff hxr hyr hne).1 hname
  have hblock := hone x hx y hy hxb hyb
  obtain ⟨xb, xf⟩ := x
  obtain ⟨yb, yf⟩ := y
  exact hne (congrArg₂ StyleRef.mk hblock hfragment)

end Pairs

/-! ## Stored styles -/

/-- The block has an alias that the template does not bind. -/
def IsUnbound (s : WalkScript) (b : BlockId) : Prop :=
  ∃ name, s.stored.IsBlock name b ∧ name ∉ s.bound

theorem Accepted.isUnbound_iff (h : s.Accepted) {name : String} {b : BlockId}
    (hb : s.stored.IsBlock name b) : s.IsUnbound b ↔ name ∉ s.bound := by
  constructor
  · rintro ⟨name', hb', hname'⟩
    rwa [h.holds_stored.isBlock_unique.1 hb hb']
  · intro hname
    exact ⟨name, hb, hname⟩

/-- What stands behind a stored style that a replay finds: some pair that a reference is written
for, and that has the name of the style. -/
theorem Accepted.exists_pair_of_found (h : s.Accepted) {a' : Analysis String StyleRef}
    {a : Analysis BlockId StyleId} (hr : s.Replayed a') (hrenamed : Renamed h.handles a' a)
    {i : StyleId} (hi : i ∈ a.found) :
    ∃ x r, x.WrittenAs r ∧ s.stored.IsStyle x i ∧
      a.canonicalName s.stored.store.catalog i = s.styleName x := by
  obtain ⟨x, hx, hrel⟩ := exists_of_mem_right hrenamed.found hi
  obtain ⟨r, hwritten⟩ := h.writtenAs_of_found hr hx
  refine ⟨x, r, hwritten, hrel, ?_⟩
  rw [← hrenamed.canonicalName_eq hrel, hr.canonicalName_eq]

/-- **Names collide only between unbound blocks.** Two different styles that the walk over a script
finds share a name exactly if neither belongs to a bound block and both have one fragment. So if the
found styles are of one unbound block at most, every list of the summary is in strict order. -/
theorem canonicalName_eq_iff_unbound {identifier : String} {d : Datum}
    {a : Analysis BlockId StyleId} (hread : read identifier d = .ok s)
    (hreplay : s.storedReplay registry = .ok a) :
    let c := s.stored.store.catalog
    (∀ i ∈ a.found, ∀ j ∈ a.found, i ≠ j →
      (a.canonicalName c i = a.canonicalName c j ↔
        s.IsUnbound (c.owner i) ∧ s.IsUnbound (c.owner j) ∧ c.fragment i = c.fragment j)) ∧
    ((∀ i ∈ a.found, ∀ j ∈ a.found,
        s.IsUnbound (c.owner i) → s.IsUnbound (c.owner j) → c.owner i = c.owner j) →
      (a.summarize c).stylesFound.Pairwise (· < ·) ∧
      (a.summarize c).dynamicStyles.Pairwise (· < ·) ∧
      ∀ places ∈ (a.summarize c).styleCorrelations, places.Pairwise (· < ·)) := by
  intro c
  have h : s.Accepted := accepted_of_read hread
  obtain ⟨a', hreplay', hrenamed⟩ := (h.sameOutcome_replay registry).exists_ok hreplay
  have hr : s.Replayed a' := replayed_of_replay hreplay'
  refine ⟨fun i hi j hj hij => ?_, fun hone => ?_⟩
  · obtain ⟨x, r, hx, hxi, hxname⟩ := h.exists_pair_of_found hr hrenamed hi
    obtain ⟨y, r', hy, hyj, hyname⟩ := h.exists_pair_of_found hr hrenamed hj
    have hxy : x ≠ y := fun he => hij (h.holds_stored.isStyle_unique.2 hxi (he ▸ hyj))
    have hxb : s.IsUnbound (c.owner i) ↔ x.block ∉ s.bound :=
      h.isUnbound_iff (h.handles.owner_rel hxi)
    have hyb : s.IsUnbound (c.owner j) ↔ y.block ∉ s.bound :=
      h.isUnbound_iff (h.handles.owner_rel hyj)
    have hxf : x.fragment = c.fragment i := h.handles.fragment_eq hxi
    have hyf : y.fragment = c.fragment j := h.handles.fragment_eq hyj
    rw [hxname, hyname, styleName_eq_iff hx hy hxy, hxb, hyb, hxf, hyf]
  · have hapart : a'.NamesApart s.catalog := by
      refine h.namesApart hr fun x hx y hy hxb hyb => ?_
      obtain ⟨i, hi, hxi⟩ := exists_of_mem_left hrenamed.found hx
      obtain ⟨j, hj, hyj⟩ := exists_of_mem_left hrenamed.found hy
      have hxo := h.handles.owner_rel hxi
      have hyo := h.handles.owner_rel hyj
      have howner : c.owner i = c.owner j :=
        hone i hi j hj ((h.isUnbound_iff hxo).2 hxb) ((h.isUnbound_iff hyo).2 hyb)
      exact h.handles.block_unique.1 hxo (howner ▸ hyo)
    rw [← hrenamed.summarize_eq]
    exact hapart.ascending (coherent_of_replay hreplay')

/-- A script with two blocks that are not bound and have a fragment in common, which a bound block
has too. -/
def twoUnbound : WalkScript where
  template := ⟨TemplateKind.base.typeName, .str "page", none⟩
  blocks := [("a", ⟨"a.css", OrderedSet.ofList [".x"], []⟩),
    ("b", ⟨"b.css", OrderedSet.ofList [".x"], []⟩),
    ("c", ⟨"b.css", OrderedSet.ofList [".x", "[on]"], []⟩)]
  bound := ["a"]
  elements := [⟨["a.x", "b.x", "c.x", "c[on]"], ["c.x"]⟩]

/-- The value that the script is read from. -/
def twoUnboundDatum : Datum :=
  .ofFields [
    ("blocks", .ofFields [
      ("a", .ofFields [("source", .str "a.css"), ("styles", .ofStrings [".x"])]),
      ("b", .ofFields [("source", .str "b.css"), ("styles", .ofStrings [".x"]),
        ("bind", .bool false)]),
      ("c", .ofFields [("source", .str "b.css"), ("styles", .ofStrings [".x", "[on]"]),
        ("bind", .bool false)])]),
    ("elements", .list none [.ofFields [("styles", .ofStrings ["a.x", "b.x", "c.x", "c[on]"]),
      ("dynamic", .ofStrings ["c.x"])]])]

theorem owner_of_isUnbound_threeBlocks {b : BlockId} (h : threeBlocks.IsUnbound b) : b = ⟨1⟩ := by
  obtain ⟨name, hb, hname⟩ := h
  have hmem : name ∈ ["a", "b", "c"] := Entries.mem_keys_iff.2 ⟨b, hb⟩
  have hbound : name ∉ ["a", "c"] := hname
  have hone : name = "b" := by
    simp only [List.mem_cons, List.not_mem_nil, or_false] at hmem hbound
    tauto
  subst hone
  exact (Option.some.inj hb).symm

/-- The styles `.x` of the blocks that are not bound share a name, which no other two styles do;
with one block that is not bound nothing is repeated. -/
theorem canonicalName_eq_iff_unbound_twoUnbound :
    (read "page" twoUnboundDatum = .ok twoUnbound ∧
      ∃ a, twoUnbound.storedReplay .initial = .ok a ∧
        let name := a.canonicalName twoUnbound.stored.store.catalog
        name ⟨1⟩ = name ⟨2⟩ ∧ name ⟨0⟩ ≠ name ⟨1⟩ ∧ name ⟨2⟩ ≠ name ⟨3⟩) ∧
    read "page" threeBlocksDatum = .ok threeBlocks ∧
      ∃ a, threeBlocks.storedReplay .initial = .ok a ∧
        (a.summarize threeBlocks.stored.store.catalog).stylesFound.Pairwise (· < ·) := by
  constructor
  · have hread : read "page" twoUnboundDatum = .ok twoUnbound := rfl
    obtain ⟨a, hreplay, h0, h1, h2, h3⟩ : ∃ a, twoUnbound.storedReplay .initial = .ok a ∧
        ⟨0⟩ ∈ a.found ∧ ⟨1⟩ ∈ a.found ∧ ⟨2⟩ ∈ a.found ∧ ⟨3⟩ ∈ a.found :=
      ⟨_, rfl, by decide, by decide, by decide, by decide⟩
    have hb : twoUnbound.IsUnbound ⟨1⟩ := ⟨"b", rfl, by decide⟩
    have hc : twoUnbound.IsUnbound ⟨2⟩ := ⟨"c", rfl, by decide⟩
    have hbound : twoUnbound.stored.IsBlock "a" ⟨0⟩ := rfl
    have ha : ¬ twoUnbound.IsUnbound ⟨0⟩ := by
      rw [(accepted_of_read hread).isUnbound_iff hbound]
      decide
    obtain ⟨hcollide, -⟩ := canonicalName_eq_iff_unbound hread hreplay
    refine ⟨hread, a, hreplay, ?_, ?_, ?_⟩
    · exact (hcollide ⟨1⟩ h1 ⟨2⟩ h2 (by decide)).2 ⟨hb, hc, rfl⟩
    · intro hname
      exact ha ((hcollide ⟨0⟩ h0 ⟨1⟩ h1 (by decide)).1 hname).1
    · intro hname
      have hfragment : (".x" : String) = "[on]" :=
        ((hcollide ⟨2⟩ h2 ⟨3⟩ h3 (by decide)).1 hname).2.2
      exact absurd hfragment (by decide)
  · have hread : read "page" threeBlocksDatum = .ok threeBlocks := rfl
    obtain ⟨a, hreplay⟩ : ∃ a, threeBlocks.storedReplay .initial = .ok a := ⟨_, rfl⟩
    obtain ⟨-, hascending⟩ := canonicalName_eq_iff_unbound hread hreplay
    refine ⟨hread, a, hreplay, (hascending fun i _ j _ hi hj => ?_).1⟩
    rw [owner_of_isUnbound_threeBlocks hi, owner_of_isUnbound_threeBlocks hj]

end WalkScript

end StyleUsage
