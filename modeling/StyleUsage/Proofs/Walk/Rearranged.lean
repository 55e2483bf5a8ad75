import StyleUsage.Proofs.Collection.Related
import StyleUsage.Proofs.Walk.Accepted
import Mathlib.Data.List.FinRange

/-!
# Walk data in another arrangement

Walk data is rearranged (`Rearranged`) by putting the blocks in another order, by putting the texts
of a list in another order or repeating them, by inserting or removing elements without a reference,
and by permuting the elements that have one. Rearranged data is read if the data is, as a script
that declares, binds and refers to the same (`read_of_rearranged`).
-/

namespace StyleUsage

namespace Datum

/-- The value of a field; what has no fields has null there. -/
def field (d : Datum) (name : String) : Datum := lookup (d.fields?.getD []) name

/-- Two lists have the same items, in any order and any number of times. -/
def SameItems (d d' : Datum) : Prop :=
  ∃ items items', d.listed? = some items ∧ d'.listed? = some items' ∧ ∀ x, x ∈ items ↔ x ∈ items'

theorem SameItems.symm {d d' : Datum} (h : SameItems d d') : SameItems d' d := by
  obtain ⟨items, items', hd, hd', hmem⟩ := h
  exact ⟨items', items, hd', hd, fun x => (hmem x).symm⟩

/-- What has the items of a list of texts is a list of the same texts. -/
theorem SameItems.texts {d d' : Datum} (h : SameItems d d') {texts : List String}
    (htexts : d.listed? = some (texts.map .str)) :
    ∃ texts' : List String, d'.listed? = some (texts'.map .str) ∧ ∀ r, r ∈ texts ↔ r ∈ texts' := by
  obtain ⟨items, items', hd, hd', hmem⟩ := h
  rw [hd] at htexts
  cases htexts
  have htext : ∀ x ∈ items', ∃ text, x = .str text := by
    intro x hx
    obtain ⟨text, -, rfl⟩ := List.mem_map.1 ((hmem x).2 hx)
    exact ⟨text, rfl⟩
  obtain ⟨texts', hall⟩ := exists_forall₂ htext
  have heq : items' = texts'.map .str := by
    rw [← List.forall₂_eq_eq_eq, List.forall₂_map_right_iff]
    exact hall
  subst heq
  refine ⟨texts', hd', fun r => ?_⟩
  have hstr := hmem (.str r)
  simpa using hstr

end Datum

namespace WalkScript

open Datum

/-! ## The relation -/

/-- Two values are one, or are mappings for blocks that have the same styles and dependencies and
the rest in common. -/
def SameBlock (d d' : Datum) : Prop :=
  d = d' ∨ ∃ label entries label' entries', d.opened = .map label entries ∧
    d'.opened = .map label' entries' ∧ lookup entries "source" = lookup entries' "source" ∧
    lookup? entries "bind" = lookup? entries' "bind" ∧
    SameItems (lookup entries "styles") (lookup entries' "styles") ∧
    SameItems (lookup entries "depends_on") (lookup entries' "depends_on")

/-- Two values for elements have the same references, be they lists or mappings. -/
def SameElement (d d' : Datum) : Prop :=
  SameItems d d' ∨ ∃ label entries label' entries', d.opened = .map label entries ∧
    d'.opened = .map label' entries' ∧
    SameItems (lookup entries "styles") (lookup entries' "styles") ∧
    SameItems (lookup entries "dynamic") (lookup entries' "dynamic")

/-- Whether a value is not that of an element without references. -/
def hasReference (d : Datum) : Bool :=
  match readElement 0 d with
  | .ok ⟨[], []⟩ => false
  | _ => true

def blockEntries (d : Datum) : List (Datum × Datum) := (d.field "blocks").fields?.getD []

def fullElements (d : Datum) : List Datum :=
  ((d.field "elements").listed?.getD []).filter hasReference

/-- Walk data is a mapping with blocks in a mapping and elements in a list. -/
structure IsWalk (d : Datum) : Prop where
  fields : d.fields? ≠ none
  blocks : (d.field "blocks").fields? ≠ none
  elements : (d.field "elements").listed? ≠ none

/-- Walk data in another arrangement, with the elements that have references permuted. -/
structure Rearranged (d d' : Datum) (p : Equiv.Perm (Fin (fullElements d).length)) : Prop where
  isWalk : IsWalk d'
  template : d.field "template" = d'.field "template"
  blocks : ∃ entries, (blockEntries d).Perm entries ∧
    List.Forall₂ (fun x y => x.1.display = y.1.display ∧ SameBlock x.2 y.2) entries
      (blockEntries d')
  elements : List.Forall₂ SameElement (List.ofFn fun i => (fullElements d).get (p i))
    (fullElements d')

variable {identifier : String} {d d' : Datum} {s s' : WalkScript}

/-- A script is read from the fields of its data. -/
theorem read_ok_iff_fields : read identifier d = .ok s ↔ d.fields? ≠ none ∧
    readBlocks (d.field "blocks") = .ok ⟨s.blocks, s.bound⟩ ∧
    readTemplate identifier (d.field "template") = .ok s.template ∧
    readElements (d.field "elements") = .ok s.elements ∧
    ∀ r ∈ s.references, ∃ x, s.resolve r = .ok x := by
  rw [read_ok_iff]
  unfold field
  cases d.fields? with
  | none => simp
  | some entries => simp

/-! ## Blocks -/

/-- Two declarations have the source, the fragments and the dependencies in common. -/
structure SameDeclaration (b b' : BlockDeclaration) : Prop where
  source : b.source = b'.source
  styles : ∀ f, f ∈ b.styles ↔ f ∈ b'.styles
  dependsOn : ∀ x, x ∈ b.dependsOn ↔ x ∈ b'.dependsOn

/-- Two entries that were read are of one name and of one block. -/
structure SameEntry (r r' : ReadEntry) : Prop where
  name : r.name = r'.name
  block : SameDeclaration r.block r'.block
  bind : r.bind = r'.bind

theorem readBind_congr {name : String} {entries entries' : List (Datum × Datum)}
    (h : lookup? entries "bind" = lookup? entries' "bind") :
    readBind name entries = readBind name entries' := by
  unfold readBind
  rw [h]

theorem SameBlock.reads {name : String} {block : BlockDeclaration} {bind : Bool}
    (h : SameBlock d d') (hread : readBlock name d = .ok (block, bind)) :
    ∃ block', readBlock name d' = .ok (block', bind) ∧ SameDeclaration block block' := by
  rcases h with rfl | ⟨label, entries, label', entries', hd, hd', hsource, hbind, hstyles, hdeps⟩
  · exact ⟨block, hread, rfl, fun _ => Iff.rfl, fun _ => Iff.rfl⟩
  · rcases readBlock_cases hread with ⟨source, hd₁, -⟩ |
      ⟨_, _, source, styles, dependsOn, hd₁, hsource₁, hstyles₁, hdeps₁, hbind₁, rfl⟩
    · rw [hd] at hd₁
      cases hd₁
    · rw [hd] at hd₁
      cases hd₁
      obtain ⟨styles', hstyles', hmem⟩ := hstyles.texts hstyles₁
      obtain ⟨dependsOn', hdeps', hmem'⟩ := hdeps.texts hdeps₁
      rw [hsource] at hsource₁
      rw [readBind_congr hbind] at hbind₁
      refine ⟨_, readBlock_of_map hd' hsource₁ hstyles' hdeps' hbind₁, rfl, fun f => ?_, hmem'⟩
      rw [OrderedSet.mem_ofList, OrderedSet.mem_ofList, hmem]

theorem readsAs_of_same {x y : Datum × Datum} {r : ReadEntry} (hr : ReadsAs x r)
    (hkey : x.1.display = y.1.display) (hblock : SameBlock x.2 y.2) :
    ∃ r', ReadsAs y r' ∧ SameEntry r r' := by
  obtain ⟨block', hread, hsame⟩ := hblock.reads hr.2
  exact ⟨⟨r.name, block', r.bind⟩, ⟨hr.1.trans hkey, hread⟩, rfl, hsame, rfl⟩

theorem keys_declarations (rs : List ReadEntry) :
    Entries.keys (rs.map fun r => (r.name, r.block)) = rs.map ReadEntry.name := by
  unfold Entries.keys
  rw [List.map_map]
  rfl

theorem Blocks.declared_ofEntries {rs : List ReadEntry} (h : (rs.map ReadEntry.name).Nodup) :
    (Blocks.ofEntries rs).declared = rs.map fun r => (r.name, r.block) := by
  rw [← keys_declarations] at h
  exact Entries.ofPairs_eq_self h

/-- Two scripts declare the same blocks. -/
def SameBlocks (b b' : Blocks) : Prop :=
  b.bound.Perm b'.bound ∧
    ∀ name, Option.Rel SameDeclaration (Entries.get? b.declared name)
      (Entries.get? b'.declared name)

theorem get?_of_sameEntries {rs rs' : List ReadEntry} (h : List.Forall₂ SameEntry rs rs')
    (name : String) :
    Option.Rel SameDeclaration (Entries.get? (rs.map fun r => (r.name, r.block)) name)
      (Entries.get? (rs'.map fun r => (r.name, r.block)) name) := by
  induction h with
  | nil => exact .none
  | @cons r r' rs rs' hr _ ih =>
    rw [List.map_cons, List.map_cons, Entries.get?, Entries.get?, ← hr.name]
    by_cases hname : r.name = name
    · rw [if_pos hname, if_pos hname]
      exact .some hr.block
    · rw [if_neg hname, if_neg hname]
      exact ih

theorem bound_of_sameEntries {rs rs' : List ReadEntry} (h : List.Forall₂ SameEntry rs rs') :
    (rs.filter ReadEntry.bind).map ReadEntry.name =
      (rs'.filter ReadEntry.bind).map ReadEntry.name := by
  induction h with
  | nil => rfl
  | cons hr _ ih =>
    rw [List.filter_cons, List.filter_cons, hr.bind]
    split
    · rw [List.map_cons, List.map_cons, hr.name, ih]
    · exact ih

theorem names_of_readsAs {entries : List (Datum × Datum)} {rs : List ReadEntry}
    (h : List.Forall₂ ReadsAs entries rs) :
    rs.map ReadEntry.name = entries.map fun x => x.1.display :=
  (map_eq_of_forall₂ h fun _ _ hr => hr.1.symm).symm

theorem names_of_sameEntries {rs rs' : List ReadEntry} (h : List.Forall₂ SameEntry rs rs') :
    rs.map ReadEntry.name = rs'.map ReadEntry.name :=
  map_eq_of_forall₂ h fun _ _ hr => hr.name

namespace SameBlocks

variable {b b' : Blocks}

theorem get?_cases (h : SameBlocks b b') (name : String) :
    (Entries.get? b.declared name = none ∧ Entries.get? b'.declared name = none) ∨
    (∃ block block', Entries.get? b.declared name = some block ∧
      Entries.get? b'.declared name = some block' ∧ SameDeclaration block block') := by
  have hrel := h.2 name
  generalize Entries.get? b.declared name = x at hrel ⊢
  generalize Entries.get? b'.declared name = y at hrel ⊢
  cases hrel with
  | none => exact .inl ⟨rfl, rfl⟩
  | some hsame => exact .inr ⟨_, _, rfl, rfl, hsame⟩

theorem mem_keys_iff (h : SameBlocks b b') {name : String} :
    name ∈ Entries.keys b.declared ↔ name ∈ Entries.keys b'.declared := by
  rw [Entries.mem_keys_iff, Entries.mem_keys_iff]
  rcases h.get?_cases name with ⟨hget, hget'⟩ | ⟨block, block', hget, hget', -⟩ <;>
    simp [hget, hget']

theorem dependenciesKnown (h : SameBlocks b b') (hb : (Entries.keys b.declared).Nodup)
    (hb' : (Entries.keys b'.declared).Nodup) (hknown : b.DependenciesKnown) :
    b'.DependenciesKnown := by
  rintro ⟨name, block₁⟩ hmem x hx
  have hget₁ := (Entries.mem_iff_get? hb').1 hmem
  rcases h.get?_cases name with ⟨-, hget'⟩ | ⟨block, block', hget, hget', hsame⟩
  · rw [hget₁] at hget'
    cases hget'
  · rw [hget₁] at hget'
    cases hget'
    have hx' : x ∈ block.dependsOn := (hsame.dependsOn x).2 hx
    exact h.mem_keys_iff.1 (hknown (name, block) ((Entries.mem_iff_get? hb).2 hget) x hx')

end SameBlocks

variable {p : Equiv.Perm (Fin (fullElements d).length)}

theorem Rearranged.readBlocks (h : Rearranged d d' p) {b : Blocks}
    (hkeys : ((blockEntries d).map fun x => x.1.display).Nodup)
    (hread : readBlocks (d.field "blocks") = .ok b) :
    ∃ b', WalkScript.readBlocks (d'.field "blocks") = .ok b' ∧ SameBlocks b b' := by
  obtain ⟨_, rs, hfields, hrs, rfl, hknown⟩ := readBlocks_ok_iff.1 hread
  obtain ⟨entries', hfields'⟩ := Option.ne_none_iff_exists'.1 h.isWalk.blocks
  obtain ⟨entries, hperm, hsame⟩ := h.blocks
  unfold blockEntries at hkeys hperm hsame
  rw [hfields] at hkeys hperm
  rw [hfields'] at hsame
  -- The entries that were read are put in order first, then compared one by one.
  obtain ⟨rs₁, hrs₁, hperm₁⟩ := List.perm_comp_forall₂ hperm.symm hrs
  obtain ⟨rs', hrs', hentries⟩ :=
    forall₂_square (fun _ _ _ hr hxy => readsAs_of_same hr hxy.1 hxy.2) hrs₁ hsame
  have hnames : (rs.map ReadEntry.name).Nodup := by
    rw [names_of_readsAs hrs]
    exact hkeys
  have hnames' : (rs'.map ReadEntry.name).Nodup := by
    rw [← names_of_sameEntries hentries]
    exact (hperm₁.map _).nodup_iff.2 hnames
  have hblocks : SameBlocks (.ofEntries rs) (.ofEntries rs') := by
    refine ⟨?_, fun name => ?_⟩
    · show ((rs.filter ReadEntry.bind).map _).Perm ((rs'.filter ReadEntry.bind).map _)
      rw [← bound_of_sameEntries hentries]
      exact ((hperm₁.filter _).map _).symm
    · have hget : Entries.get? (rs.map fun r => (r.name, r.block)) name =
          Entries.get? (rs₁.map fun r => (r.name, r.block)) name := by
        refine (Entries.perm_iff_get? ?_ ?_).1 (hperm₁.symm.map _) name <;> rw [keys_declarations]
        · exact hnames
        · exact (hperm₁.map _).nodup_iff.2 hnames
      rw [Blocks.declared_ofEntries hnames, Blocks.declared_ofEntries hnames', hget]
      exact get?_of_sameEntries hentries name
  refine ⟨_, readBlocks_ok_iff.2 ⟨entries', rs', hfields', hrs', rfl, ?_⟩, hblocks⟩
  exact hblocks.dependenciesKnown (Blocks.nodup_keys_ofEntries rs) (Blocks.nodup_keys_ofEntries rs')
    hknown

/-! ## Elements -/

/-- Two elements have the same references. -/
structure SameMembers (e e' : WalkElement) : Prop where
  styles : ∀ r, r ∈ e.styles ↔ r ∈ e'.styles
  dynamic : ∀ r, r ∈ e.dynamic ↔ r ∈ e'.dynamic

theorem SameElement.symm (h : SameElement d d') : SameElement d' d := by
  rcases h with h | ⟨label, entries, label', entries', hd, hd', hstyles, hdynamic⟩
  · exact .inl h.symm
  · exact .inr ⟨label', entries', label, entries, hd', hd, hstyles.symm, hdynamic.symm⟩

theorem listed?_of_map {label : Option Nat} {entries : List (Datum × Datum)}
    (h : d.opened = .map label entries) : d.listed? = none := by
  unfold listed?
  rw [h]

theorem SameElement.reads (h : SameElement d d') {e : WalkElement} (he : ElementReadsAs d e) :
    ∃ e', ElementReadsAs d' e' ∧ SameMembers e e' := by
  rcases h with hitems | ⟨label, entries, label', entries', hd, hd', hstyles, hdynamic⟩
  · rcases he with ⟨hlist, hnone⟩ | ⟨_, _, hd, -⟩
    · obtain ⟨styles', hlist', hmem⟩ := hitems.texts hlist
      exact ⟨⟨styles', []⟩, .inl ⟨hlist', rfl⟩, hmem, fun r => by rw [hnone]⟩
    · obtain ⟨items, -, hlist, -⟩ := hitems
      rw [listed?_of_map hd] at hlist
      cases hlist
  · rcases he with ⟨hlist, -⟩ | ⟨_, _, hd₁, hstyles₁, hdynamic₁⟩
    · rw [listed?_of_map hd] at hlist
      cases hlist
    · rw [hd] at hd₁
      cases hd₁
      obtain ⟨styles', hstyles', hmem⟩ := hstyles.texts hstyles₁
      obtain ⟨dynamic', hdynamic', hmem'⟩ := hdynamic.texts hdynamic₁
      exact ⟨⟨styles', dynamic'⟩, .inr ⟨label', entries', hd', hstyles', hdynamic'⟩, hmem, hmem'⟩

theorem elementReadsAs_unique {e e' : WalkElement} (h : ElementReadsAs d e)
    (h' : ElementReadsAs d e') : e = e' :=
  Except.ok.inj ((readElement_ok_iff (n := 0).2 h).symm.trans (readElement_ok_iff.2 h'))

theorem hasReference_iff {e : WalkElement} (h : ElementReadsAs d e) :
    hasReference d = true ↔ e ≠ ⟨[], []⟩ := by
  unfold hasReference
  rw [readElement_ok_iff.2 h]
  obtain ⟨styles, dynamic⟩ := e
  cases styles <;> cases dynamic <;> simp

theorem elementReadsAs_of_not_hasReference (h : ¬ hasReference d = true) :
    ElementReadsAs d ⟨[], []⟩ := by
  unfold hasReference at h
  split at h
  · next hread => exact readElement_ok_iff.1 hread
  · exact absurd rfl h

/-- A part of the references of an element. -/
structure IsPart (part : WalkElement → List String) : Prop where
  nil : part ⟨[], []⟩ = []
  mem_congr : ∀ {e e'}, SameMembers e e' → ∀ r, r ∈ part e ↔ r ∈ part e'

theorem isPart_styles : IsPart WalkElement.styles := ⟨rfl, fun h => h.styles⟩

theorem isPart_dynamic : IsPart WalkElement.dynamic := ⟨rfl, fun h => h.dynamic⟩

theorem isPart_references : IsPart fun e => e.styles ++ e.dynamic :=
  ⟨rfl, fun h r => by rw [List.mem_append, List.mem_append, h.styles, h.dynamic]⟩

def Refers (part : WalkElement → List String) (items : List Datum) (r : String) : Prop :=
  ∃ item ∈ items, ∃ e, ElementReadsAs item e ∧ r ∈ part e

variable {part : WalkElement → List String} {items items' : List Datum} {r : String}

theorem refers_iff_mem {es : List WalkElement} (h : List.Forall₂ ElementReadsAs items es) :
    Refers part items r ↔ r ∈ es.flatMap part := by
  rw [List.mem_flatMap]
  refine exists_iff_of_forall₂ h fun item e he => ⟨?_, fun hr => ⟨e, he, hr⟩⟩
  rintro ⟨e', he', hr⟩
  rwa [elementReadsAs_unique he he']

theorem refers_filter (hpart : IsPart part) :
    Refers part (items.filter hasReference) r ↔ Refers part items r := by
  constructor
  · rintro ⟨item, hitem, he⟩
    exact ⟨item, List.mem_of_mem_filter hitem, he⟩
  · rintro ⟨item, hitem, e, he, hr⟩
    refine ⟨item, List.mem_filter.2 ⟨hitem, (hasReference_iff he).2 ?_⟩, e, he, hr⟩
    rintro rfl
    rw [hpart.nil] at hr
    cases hr

theorem refers_congr (hpart : IsPart part) (h : List.Forall₂ SameElement items items') :
    Refers part items r ↔ Refers part items' r := by
  have hstep : ∀ {x y}, SameElement x y → (∃ e, ElementReadsAs x e ∧ r ∈ part e) →
      ∃ e, ElementReadsAs y e ∧ r ∈ part e := by
    rintro x y hxy ⟨e, he, hr⟩
    obtain ⟨e', he', hsame⟩ := hxy.reads he
    exact ⟨e', he', (hpart.mem_congr hsame r).1 hr⟩
  exact exists_iff_of_forall₂ h fun x y hxy => ⟨hstep hxy, hstep hxy.symm⟩

theorem perm_permuted (items : List Datum) (p : Equiv.Perm (Fin items.length)) :
    (List.ofFn fun i => items.get (p i)).Perm items := by
  have hperm := Equiv.Perm.ofFn_comp_perm p items.get
  rw [List.ofFn_get] at hperm
  exact hperm

theorem Rearranged.refers_iff (h : Rearranged d d' p) (hpart : IsPart part) :
    Refers part (fullElements d) r ↔ Refers part (fullElements d') r := by
  rw [← refers_congr hpart h.elements]
  exact exists_congr fun item =>
    and_congr_left fun _ => (perm_permuted (fullElements d) p).mem_iff.symm

/-- The elements of a script are read from those of the data, and have the references of those that
have some. -/
theorem elements_of_read (h : read identifier d = .ok s) :
    ∃ items, (d.field "elements").listed? = some items ∧
      List.Forall₂ ElementReadsAs items s.elements :=
  readElements_ok_iff.1 (read_ok_iff_fields.1 h).2.2.2.1

theorem mem_flatMap_iff_refers (h : read identifier d = .ok s) (hpart : IsPart part) :
    r ∈ s.elements.flatMap part ↔ Refers part (fullElements d) r := by
  obtain ⟨items, hitems, hall⟩ := elements_of_read h
  unfold fullElements
  rw [hitems, ← refers_iff_mem hall]
  exact (refers_filter hpart).symm

theorem Rearranged.readElements (h : Rearranged d d' p)
    (hread : ∀ item ∈ fullElements d, ∃ e, ElementReadsAs item e) :
    ∃ es, WalkScript.readElements (d'.field "elements") = .ok es := by
  obtain ⟨items', hitems'⟩ := Option.ne_none_iff_exists'.1 h.isWalk.elements
  have hread' : ∀ item ∈ items', ∃ e, ElementReadsAs item e := by
    intro item' hitem'
    -- An element with references has its counterpart in the data; any other is read as blank.
    by_cases href : hasReference item' = true
    · have hmem : item' ∈ fullElements d' := by
        unfold fullElements
        rw [hitems']
        exact List.mem_filter.2 ⟨hitem', href⟩
      obtain ⟨item, hitem, hsame⟩ := exists_of_mem_right h.elements hmem
      obtain ⟨e, he⟩ := hread item ((perm_permuted (fullElements d) p).mem_iff.1 hitem)
      obtain ⟨e', he', -⟩ := hsame.reads he
      exact ⟨e', he'⟩
    · exact ⟨_, elementReadsAs_of_not_hasReference href⟩
  obtain ⟨es, hes⟩ := exists_forall₂ hread'
  exact ⟨es, readElements_ok_iff.2 ⟨items', hitems', hes⟩⟩

/-! ## Scripts -/

/-- Two scripts have the template in common and declare and bind the same blocks. -/
structure SameHead (s s' : WalkScript) : Prop where
  template : s.template = s'.template
  blocks : SameBlocks ⟨s.blocks, s.bound⟩ ⟨s'.blocks, s'.bound⟩

theorem SameHead.source_eq (h : SameHead s s') : s.source = s'.source := by
  funext name
  unfold source
  rcases h.blocks.get?_cases name with ⟨hget, hget'⟩ | ⟨block, block', hget, hget', hsame⟩
  · rw [hget, hget']
  · rw [hget, hget']
    exact hsame.source

theorem SameHead.resolve_ok_iff (h : SameHead s s') {x : StyleRef} :
    s.resolve r = .ok x ↔ s'.resolve r = .ok x := by
  have hdeclares : s.Declares x ↔ s'.Declares x := by
    unfold Declares
    rcases h.blocks.get?_cases x.block with ⟨hget, hget'⟩ | ⟨block, block', hget, hget', hsame⟩
    · simp [hget, hget']
    · simp [hget, hget', hsame.styles]
  rw [WalkScript.resolve_ok_iff, WalkScript.resolve_ok_iff, hdeclares]

/-- Rearranged data is read if the data is. -/
theorem read_of_rearranged (h : Rearranged d d' p) (hread : read identifier d = .ok s)
    (hkeys : ((blockEntries d).map fun x => x.1.display).Nodup) :
    ∃ s', read identifier d' = .ok s' ∧ SameHead s s' := by
  obtain ⟨-, hblocks, htemplate, helements, hrefs⟩ := read_ok_iff_fields.1 hread
  obtain ⟨b', hblocks', hsame⟩ := h.readBlocks hkeys hblocks
  obtain ⟨items, hitems, hall⟩ := elements_of_read hread
  obtain ⟨es', helements'⟩ := h.readElements fun item hitem => by
    unfold fullElements at hitem
    rw [hitems] at hitem
    obtain ⟨e, -, he⟩ := exists_of_mem_left hall (List.mem_of_mem_filter hitem)
    exact ⟨e, he⟩
  let s' : WalkScript := ⟨s.template, b'.declared, b'.bound, es'⟩
  have hhead : SameHead s s' := ⟨rfl, hsame⟩
  refine ⟨s', read_ok_iff_fields.2
    ⟨h.isWalk.fields, hblocks', h.template ▸ htemplate, helements', fun r hr => ?_⟩, hhead⟩
  obtain ⟨items', hitems', hall'⟩ := readElements_ok_iff.1 helements'
  have hrefers : Refers (fun e => e.styles ++ e.dynamic) (fullElements d') r := by
    unfold fullElements
    rw [hitems']
    exact (refers_filter isPart_references).2 ((refers_iff_mem hall').2 hr)
  have hmem : r ∈ s.references :=
    (mem_flatMap_iff_refers hread isPart_references).2 ((h.refers_iff isPart_references).2 hrefers)
  obtain ⟨x, hx⟩ := hrefs r hmem
  exact ⟨x, hhead.resolve_ok_iff.1 hx⟩

end WalkScript

end StyleUsage
