import StyleUsage.Proofs.Datum.Uses
import StyleUsage.Proofs.Walk.Rearranged
import StyleUsage.Proofs.Walk.References

/-!
# The grammar of walk scripts

What walk data has to be is said of the data alone (`IsScript`): which kinds its parts are of, that
a dependency is on a key of the blocks, and that a reference is written for a style of a block. Of
two entries for one name the last one counts (`lastFor?`). Data is read exactly if it is of this
form (`exists_read_iff`).
-/

namespace StyleUsage

namespace WalkScript

open Datum

/-! ## The grammar -/

/-- The value is null or a list of texts. -/
def IsTexts (d : Datum) : Prop := ∃ texts : List String, d.listed? = some (texts.map .str)

/-- The value is a list that has the text. -/
def HasText (d : Datum) (text : String) : Prop :=
  ∃ items, d.listed? = some items ∧ .str text ∈ items

/-- The value is a source, or a mapping with a source. -/
inductive IsBlock : Datum → Prop where
  | source (s : String) : IsBlock (.str s)
  | mapping {d : Datum} {entries : List (Datum × Datum)} {s : String}
      (hd : d.entries? = some entries)
      (source : lookup? entries "source" = some (.str s))
      (styles : IsTexts (lookup entries "styles"))
      (dependsOn : IsTexts (lookup entries "depends_on"))
      (bind : lookup? entries "bind" = none ∨ ∃ b, lookup? entries "bind" = some (.bool b)) :
      IsBlock d

/-- The value is null, a list of texts, or a mapping with lists of texts. -/
inductive IsElement : Datum → Prop where
  | null : IsElement .null
  | list {d : Datum} (texts : List String) (hd : d.items? = some (texts.map .str)) : IsElement d
  | mapping {d : Datum} {entries : List (Datum × Datum)} (hd : d.entries? = some entries)
      (styles : IsTexts (lookup entries "styles"))
      (dynamic : IsTexts (lookup entries "dynamic")) : IsElement d

/-- The element has the reference, be it in a list or in a mapping. -/
def RefersTo (d : Datum) (r : String) : Prop :=
  (∃ items, d.items? = some items ∧ .str r ∈ items) ∨
    HasText (d.field "styles") r ∨ HasText (d.field "dynamic") r

/-- The value of the last entry whose key has the text. -/
def lastFor? (entries : List (Datum × Datum)) (name : String) : Option Datum :=
  (entries.reverse.find? fun p => p.1.display == name).map Prod.snd

def elementItems (d : Datum) : List Datum := (d.field "elements").listed?.getD []

theorem blockEntries_eq {d : Datum} {entries : List (Datum × Datum)}
    (h : (d.field "blocks").fields? = some entries) : blockEntries d = entries := by
  unfold blockEntries
  rw [h]
  rfl

theorem elementItems_eq {d : Datum} {items : List Datum}
    (h : (d.field "elements").listed? = some items) : elementItems d = items := by
  unfold elementItems
  rw [h]
  rfl

/-- The value is walk data in every part of it. -/
structure IsScript (d : Datum) : Prop extends IsWalk d where
  block : ∀ p ∈ blockEntries d, IsBlock p.2
  dependency : ∀ name block, lastFor? (blockEntries d) name = some block →
    ∀ x, HasText (block.field "depends_on") x → ∃ p ∈ blockEntries d, p.1.display = x
  template : (d.field "template").fields? ≠ none
  payload : ((d.field "template").field "data").listed? ≠ none
  element : ∀ item ∈ elementItems d, IsElement item
  reference : ∀ item ∈ elementItems d, ∀ r, RefersTo item r → ∃ x : StyleRef, x.WrittenAs r ∧
    ∃ block, lastFor? (blockEntries d) x.block = some block ∧
      HasText (block.field "styles") x.fragment

/-! ## Kinds of values -/

theorem entries?_eq_some_iff {d : Datum} {entries : List (Datum × Datum)} :
    d.entries? = some entries ↔ ∃ label, d.opened = .map label entries := by
  unfold entries?
  cases d.opened <;> simp

theorem items?_eq_some_iff {d : Datum} {items : List Datum} :
    d.items? = some items ↔ ∃ label, d.opened = .list label items := by
  unfold items?
  cases d.opened <;> simp

theorem field_of_entries? {d : Datum} {entries : List (Datum × Datum)}
    (h : d.entries? = some entries) (key : String) : d.field key = lookup entries key := by
  obtain ⟨label, hd⟩ := entries?_eq_some_iff.1 h
  unfold field fields?
  rw [hd]
  rfl

theorem opened_eq_str_iff {d : Datum} {s : String} : d.opened = .str s ↔ d = .str s := by
  unfold opened
  split <;> simp

theorem opened_eq_null_iff {d : Datum} : d.opened = .null ↔ d = .null := by
  unfold opened
  split <;> simp

theorem listed?_eq_some_iff {d : Datum} {items : List Datum} :
    d.listed? = some items ↔ (d = .null ∧ items = []) ∨ d.items? = some items := by
  rw [← opened_eq_null_iff]
  unfold listed? items?
  cases d.opened <;> simp [eq_comm]

theorem listed?_of_not_null {d : Datum} (h : d.isNull = false) : d.listed? = d.items? := by
  unfold listed? items?
  cases hd : d.opened with
  | null =>
    rw [opened_eq_null_iff.1 hd] at h
    cases h
  | _ => rfl

theorem fields?_of_not_null {d : Datum} (h : d.isNull = false) : d.fields? = d.entries? := by
  unfold fields? entries?
  cases hd : d.opened with
  | null =>
    rw [opened_eq_null_iff.1 hd] at h
    cases h
  | _ => rfl

/-- A list has no fields. -/
theorem field_of_listed? {d : Datum} {items : List Datum} (h : d.listed? = some items)
    (key : String) : d.field key = .null := by
  unfold listed? at h
  unfold field fields?
  cases hd : d.opened with
  | map => rw [hd] at h; cases h
  | _ => rfl

theorem items?_of_entries? {d : Datum} {entries : List (Datum × Datum)}
    (h : d.entries? = some entries) : d.items? = none := by
  obtain ⟨label, hd⟩ := entries?_eq_some_iff.1 h
  unfold items?
  rw [hd]

theorem hasText_iff_mem {d : Datum} {texts : List String} (h : d.listed? = some (texts.map .str))
    (x : String) : HasText d x ↔ x ∈ texts := by
  unfold HasText
  rw [h]
  simp

theorem not_hasText_null (x : String) : ¬ HasText .null x := by
  rintro ⟨items, h, hx⟩
  cases h
  cases hx

/-! ## Blocks -/

theorem exists_readBind_iff {name : String} {entries : List (Datum × Datum)} :
    (∃ b, readBind name entries = .ok b) ↔
      lookup? entries "bind" = none ∨ ∃ b, lookup? entries "bind" = some (.bool b) := by
  unfold readBind
  cases lookup? entries "bind" with
  | none => simp
  | some d => cases d <;> simp

theorem lookup_eq_str_iff {entries : List (Datum × Datum)} {key text : String} :
    lookup entries key = .str text ↔ lookup? entries key = some (.str text) := by
  unfold lookup
  cases lookup? entries key <;> simp

theorem exists_readBlock_iff {name : String} {d : Datum} :
    (∃ block bind, readBlock name d = .ok (block, bind)) ↔ IsBlock d := by
  constructor
  · rintro ⟨block, bind, h⟩
    rcases readBlock_cases h with ⟨source, hd, -⟩ |
      ⟨label, entries, source, styles, dependsOn, hd, hsource, hstyles, hdeps, hbind, -⟩
    · rw [opened_eq_str_iff.1 hd]
      exact .source source
    · exact .mapping (entries?_eq_some_iff.2 ⟨label, hd⟩) (lookup_eq_str_iff.1 hsource)
        ⟨styles, hstyles⟩ ⟨dependsOn, hdeps⟩ (exists_readBind_iff.1 ⟨bind, hbind⟩)
  · intro h
    cases h with
    | source s => exact ⟨_, _, rfl⟩
    | mapping hd source styles dependsOn bind =>
      obtain ⟨label, hd⟩ := entries?_eq_some_iff.1 hd
      obtain ⟨styles, hstyles⟩ := styles
      obtain ⟨dependsOn, hdeps⟩ := dependsOn
      obtain ⟨b, hbind⟩ := exists_readBind_iff.2 bind
      exact ⟨_, _, readBlock_of_map hd (lookup_eq_str_iff.2 source) hstyles hdeps hbind⟩

/-- The value lists the styles and the dependencies of a block. -/
structure DeclaredBy (block : BlockDeclaration) (d : Datum) : Prop where
  styles : ∀ x, x ∈ block.styles ↔ HasText (d.field "styles") x
  dependsOn : ∀ x, x ∈ block.dependsOn ↔ HasText (d.field "depends_on") x

theorem declaredBy_of_readBlock {name : String} {d : Datum} {block : BlockDeclaration} {bind : Bool}
    (h : readBlock name d = .ok (block, bind)) : DeclaredBy block d := by
  rcases readBlock_cases h with ⟨source, hd, rfl, -⟩ |
    ⟨label, entries, source, styles, dependsOn, hd, -, hstyles, hdeps, -, rfl⟩
  · rw [opened_eq_str_iff.1 hd]
    have hnone : ∀ key, (Datum.str source).field key = .null := fun _ => rfl
    refine ⟨fun x => ?_, fun x => ?_⟩ <;> rw [hnone] <;>
      exact iff_of_false List.not_mem_nil (not_hasText_null x)
  · have hfield := field_of_entries? (entries?_eq_some_iff.2 ⟨label, hd⟩)
    refine ⟨fun x => ?_, fun x => ?_⟩ <;> rw [hfield]
    · rw [hasText_iff_mem hstyles]
      exact OrderedSet.mem_ofList
    · rw [hasText_iff_mem hdeps]

section LastEntry

variable {entries : List (Datum × Datum)} {rs : List ReadEntry}

/-- The first entry for a name is read as the first block of this name. -/
theorem rel_find? (h : List.Forall₂ ReadsAs entries rs) (name : String) :
    Option.Rel (fun d block => ∃ bind, readBlock name d = .ok (block, bind))
      ((entries.find? fun p => p.1.display == name).map Prod.snd)
      ((rs.map fun r => (r.name, r.block)).lookup name) := by
  induction h with
  | nil => exact .none
  | @cons entry r entries rs hr _ ih =>
    rw [List.map_cons, List.lookup_cons, List.find?_cons, ← hr.1]
    by_cases hname : r.name = name
    · rw [hname, beq_self_eq_true]
      exact .some ⟨r.bind, hname ▸ hr.2⟩
    · rw [beq_eq_false_iff_ne.2 hname, beq_eq_false_iff_ne.2 (Ne.symm hname)]
      exact ih

/-- The last entry for a name is read as the block of this name. -/
theorem rel_lastFor? (h : List.Forall₂ ReadsAs entries rs) (name : String) :
    Option.Rel (fun d block => ∃ bind, readBlock name d = .ok (block, bind))
      (lastFor? entries name) (Entries.get? (Blocks.ofEntries rs).declared name) := by
  show Option.Rel _ _ (Entries.get? (Entries.ofPairs _) name)
  rw [Entries.get?_ofPairs, ← List.map_reverse]
  exact rel_find? (List.forall₂_reverse_iff.2 h) name

theorem dependenciesKnown_iff (h : List.Forall₂ ReadsAs entries rs) :
    (Blocks.ofEntries rs).DependenciesKnown ↔
      ∀ name d, lastFor? entries name = some d →
        ∀ x, HasText (d.field "depends_on") x → ∃ p ∈ entries, p.1.display = x := by
  have hkeys : ∀ x, x ∈ Entries.keys (Blocks.ofEntries rs).declared ↔
      ∃ p ∈ entries, p.1.display = x := by
    intro x
    show x ∈ Entries.keys (Entries.ofPairs _) ↔ _
    rw [Entries.keys_ofPairs, List.mem_eraseDups, List.map_map]
    show x ∈ rs.map ReadEntry.name ↔ _
    rw [names_of_readsAs h, List.mem_map]
  constructor
  · intro hknown name d hd x hx
    obtain ⟨block, hblock, bind, hread⟩ := exists_of_rel_left (rel_lastFor? h name) hd
    have hmem := (Entries.mem_iff_get? (Blocks.nodup_keys_ofEntries rs)).2 hblock
    rw [← hkeys]
    exact hknown _ hmem x (((declaredBy_of_readBlock hread).dependsOn x).2 hx)
  · rintro hlast ⟨name, block⟩ hmem x hx
    have hblock := (Entries.mem_iff_get? (Blocks.nodup_keys_ofEntries rs)).1 hmem
    obtain ⟨d, hd, bind, hread⟩ := exists_of_rel_right (rel_lastFor? h name) hblock
    rw [hkeys]
    exact hlast name d hd x (((declaredBy_of_readBlock hread).dependsOn x).1 hx)

theorem declares_iff (h : List.Forall₂ ReadsAs entries rs) {s : WalkScript}
    (hblocks : s.blocks = (Blocks.ofEntries rs).declared) {x : StyleRef} :
    s.Declares x ↔ ∃ d, lastFor? entries x.block = some d ∧
      HasText (d.field "styles") x.fragment := by
  unfold Declares
  rw [hblocks]
  constructor
  · rintro ⟨block, hblock, hx⟩
    obtain ⟨d, hd, bind, hread⟩ := exists_of_rel_right (rel_lastFor? h x.block) hblock
    exact ⟨d, hd, ((declaredBy_of_readBlock hread).styles _).1 hx⟩
  · rintro ⟨d, hd, hx⟩
    obtain ⟨block, hblock, bind, hread⟩ := exists_of_rel_left (rel_lastFor? h x.block) hd
    exact ⟨block, hblock, ((declaredBy_of_readBlock hread).styles _).2 hx⟩

end LastEntry

theorem exists_readsAs_iff {entries : List (Datum × Datum)} :
    (∃ rs, List.Forall₂ ReadsAs entries rs) ↔ ∀ p ∈ entries, IsBlock p.2 := by
  constructor
  · rintro ⟨rs, h⟩ p hp
    obtain ⟨r, -, -, hread⟩ := exists_of_mem_left h hp
    exact exists_readBlock_iff.1 ⟨_, _, hread⟩
  · intro h
    refine exists_forall₂ fun p hp => ?_
    obtain ⟨block, bind, hread⟩ := exists_readBlock_iff.2 (h p hp)
    exact ⟨⟨p.1.display, block, bind⟩, rfl, hread⟩

/-! ## Template and elements -/

def readTemplateEntries (identifier : String) (entries : List (Datum × Datum)) :
    Except WalkError Descriptor :=
  let type := textOr TemplateKind.base.typeName (lookup entries "type")
  let identifier := Datum.str (textOr identifier (lookup entries "identifier"))
  let data := lookup entries "data"
  if data.isNull then .ok ⟨type, identifier, none⟩
  else match data.items? with
    | some items => .ok ⟨type, identifier, some items⟩
    | none => .error .payloadNotAList

theorem readTemplate_eq (identifier : String) (d : Datum) : readTemplate identifier d =
    match d.fields? with
    | some entries => readTemplateEntries identifier entries
    | none => .error .templateNotAMapping := by
  have hnull : ∀ data : Datum, data.isNull = true ↔ data.opened = .null := fun data =>
    isNull_iff.trans opened_eq_null_iff.symm
  unfold readTemplate fields?
  cases d.opened with
  | null => rfl
  | map label entries =>
    unfold readTemplateEntries items?
    dsimp only
    cases hdata : (lookup entries "data").opened with
    | null => rw [if_pos ((hnull _).2 hdata)]
    | _ => rw [if_neg (by rw [hnull, hdata]; simp)]
  | _ => rfl

theorem exists_readTemplate_iff {identifier : String} {d : Datum} :
    (∃ t, readTemplate identifier d = .ok t) ↔
      d.fields? ≠ none ∧ (d.field "data").listed? ≠ none := by
  rw [readTemplate_eq]
  unfold field
  cases d.fields? with
  | none => simp
  | some entries =>
    dsimp only [Option.getD_some]
    unfold readTemplateEntries
    dsimp only
    by_cases hnull : (lookup entries "data").isNull = true
    · rw [if_pos hnull, isNull_iff.1 hnull]
      simp [listed?, opened]
    · rw [if_neg hnull, listed?_of_not_null (by simpa using hnull)]
      cases (lookup entries "data").items? <;> simp

theorem exists_elementReadsAs_iff {d : Datum} : (∃ e, ElementReadsAs d e) ↔ IsElement d := by
  constructor
  · rintro ⟨⟨styles, dynamic⟩, ⟨hlist, -⟩ | ⟨label, entries, hd, hstyles, hdynamic⟩⟩
    · rcases listed?_eq_some_iff.1 hlist with ⟨rfl, -⟩ | hitems
      · exact .null
      · exact .list styles hitems
    · exact .mapping (entries?_eq_some_iff.2 ⟨label, hd⟩) ⟨styles, hstyles⟩ ⟨dynamic, hdynamic⟩
  · intro h
    cases h with
    | null => exact ⟨⟨[], []⟩, .inl ⟨rfl, rfl⟩⟩
    | list texts hd => exact ⟨⟨texts, []⟩, .inl ⟨listed?_eq_some_iff.2 (.inr hd), rfl⟩⟩
    | mapping hd styles dynamic =>
      obtain ⟨label, hd⟩ := entries?_eq_some_iff.1 hd
      obtain ⟨styles, hstyles⟩ := styles
      obtain ⟨dynamic, hdynamic⟩ := dynamic
      exact ⟨⟨styles, dynamic⟩, .inr ⟨label, _, hd, hstyles, hdynamic⟩⟩

theorem refersTo_iff {d : Datum} {e : WalkElement} (h : ElementReadsAs d e) {r : String} :
    RefersTo d r ↔ r ∈ e.styles ++ e.dynamic := by
  unfold RefersTo
  rw [List.mem_append]
  rcases h with ⟨hlist, hdynamic⟩ | ⟨label, entries, hd, hstyles, hdynamic⟩
  · rw [field_of_listed? hlist, field_of_listed? hlist, hdynamic]
    simp only [not_hasText_null, or_self, or_false, List.not_mem_nil]
    rcases listed?_eq_some_iff.1 hlist with ⟨rfl, hempty⟩ | hitems
    · rw [List.map_eq_nil_iff.1 hempty]
      simp [items?, opened]
    · rw [hitems]
      simp
  · have hentries := entries?_eq_some_iff.2 ⟨label, hd⟩
    rw [field_of_entries? hentries, field_of_entries? hentries, hasText_iff_mem hstyles,
      hasText_iff_mem hdynamic, items?_of_entries? hentries]
    simp

/-! ## The whole script -/

/-- **Data is read exactly if it is that of a walk script.** -/
theorem exists_read_iff {identifier : String} {d : Datum} :
    (∃ s, read identifier d = .ok s) ↔ IsScript d := by
  constructor
  · rintro ⟨s, h⟩
    obtain ⟨hfields, hblocks, htemplate, helements, hrefs⟩ := read_ok_iff_fields.1 h
    obtain ⟨entries, rs, hentries, hrs, hb, hknown⟩ := readBlocks_ok_iff.1 hblocks
    obtain ⟨items, hitems, hes⟩ := readElements_ok_iff.1 helements
    obtain ⟨htemplate, hpayload⟩ := exists_readTemplate_iff.1 ⟨_, htemplate⟩
    have hentries' := blockEntries_eq hentries
    have hitems' := elementItems_eq hitems
    have hdeclared : s.blocks = (Blocks.ofEntries rs).declared := congrArg Blocks.declared hb
    refine ⟨⟨hfields, by simp [hentries], by simp [hitems]⟩, ?_, ?_, htemplate, hpayload, ?_, ?_⟩
    · rw [hentries']
      exact exists_readsAs_iff.1 ⟨rs, hrs⟩
    · rw [hentries']
      rw [hb] at hknown
      exact (dependenciesKnown_iff hrs).1 hknown
    · rw [hitems']
      intro item hitem
      obtain ⟨e, -, he⟩ := exists_of_mem_left hes hitem
      exact exists_elementReadsAs_iff.1 ⟨e, he⟩
    · rw [hitems', hentries']
      intro item hitem r hr
      obtain ⟨e, he, hread⟩ := exists_of_mem_left hes hitem
      obtain ⟨x, hx⟩ := hrefs r (List.mem_flatMap.2 ⟨e, he, (refersTo_iff hread).1 hr⟩)
      obtain ⟨hwritten, hdeclares⟩ := resolve_ok_iff_writtenAs.1 hx
      exact ⟨x, hwritten, (declares_iff hrs hdeclared).1 hdeclares⟩
  · intro h
    obtain ⟨entries, hentries⟩ := Option.ne_none_iff_exists'.1 h.blocks
    obtain ⟨items, hitems⟩ := Option.ne_none_iff_exists'.1 h.elements
    have hentries' := blockEntries_eq hentries
    have hitems' := elementItems_eq hitems
    obtain ⟨rs, hrs⟩ := exists_readsAs_iff.2 (hentries' ▸ h.block)
    have htemplate : ∃ t, readTemplate identifier (d.field "template") = .ok t :=
      exists_readTemplate_iff.2 ⟨h.template, h.payload⟩
    obtain ⟨t, htemplate⟩ := htemplate
    have hread : ∀ item ∈ items, ∃ e, ElementReadsAs item e := fun item hitem =>
      exists_elementReadsAs_iff.2 (h.element item (hitems' ▸ hitem))
    obtain ⟨es, hes⟩ := exists_forall₂ hread
    have hknown := (dependenciesKnown_iff hrs).2 (hentries' ▸ h.dependency)
    let s : WalkScript := ⟨t, (Blocks.ofEntries rs).declared, (Blocks.ofEntries rs).bound, es⟩
    refine ⟨s, read_ok_iff_fields.2 ⟨h.fields,
      readBlocks_ok_iff.2 ⟨entries, rs, hentries, hrs, rfl, hknown⟩, htemplate,
      readElements_ok_iff.2 ⟨items, hitems, hes⟩, fun r hr => ?_⟩⟩
    obtain ⟨e, he, hr⟩ := List.mem_flatMap.1 hr
    obtain ⟨item, hitem, hread⟩ := exists_of_mem_right hes he
    obtain ⟨x, hwritten, hx⟩ := h.reference item (hitems' ▸ hitem) r ((refersTo_iff hread).2 hr)
    rw [hentries'] at hx
    exact ⟨x, resolve_ok_iff_writtenAs.2 ⟨hwritten, (declares_iff (s := s) hrs rfl).2 hx⟩⟩

end WalkScript

end StyleUsage
