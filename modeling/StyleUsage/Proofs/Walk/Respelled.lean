import StyleUsage.Proofs.Walk.Grammar

/-!
# Walk data in another spelling

Walk data has short forms: a source alone for a block, a list of styles or null for an element, and
null for what a mapping leaves out. Data that spells them out, or leaves out more (`Respelled`), is
read as the same script (`read_of_respelled`).
-/

namespace StyleUsage

namespace WalkScript

open Datum

/-! ## The relation -/

/-- Another spelling of a block: the mapping for a source, or a mapping that differs in null fields,
and in whether it says that the template binds the block. -/
inductive RespelledBlock : Datum → Datum → Prop where
  | same (d : Datum) : RespelledBlock d d
  | source (s : String) : RespelledBlock (.str s) (.ofFields [("source", .str s)])
  | fields {d d' : Datum} {entries entries' : List (Datum × Datum)}
      (hd : d.entries? = some entries) (hd' : d'.entries? = some entries')
      (lookup_eq : ∀ key, key ≠ "bind" → lookup entries key = lookup entries' key)
      (bind : lookup? entries "bind" = lookup? entries' "bind" ∨
        (lookup? entries "bind" = some (.bool true) ∧ lookup? entries' "bind" = none)) :
      RespelledBlock d d'

/-- Another spelling of an element: the mapping for a list of styles, the empty mapping for null, or
a mapping that differs in null fields. -/
inductive RespelledElement : Datum → Datum → Prop where
  | same (d : Datum) : RespelledElement d d
  | list {d : Datum} {items : List Datum} (hd : d.items? = some items) :
      RespelledElement d (.ofFields [("styles", d)])
  | null : RespelledElement .null (.ofFields [])
  | fields {d d' : Datum} {entries entries' : List (Datum × Datum)}
      (hd : d.entries? = some entries) (hd' : d'.entries? = some entries')
      (lookup_eq : ∀ key, lookup entries key = lookup entries' key) : RespelledElement d d'

/-- Walk data with blocks and elements in another spelling; null fields may come or go. -/
structure Respelled (d d' : Datum) : Prop extends IsWalk d' where
  blocks_eq : List.Forall₂ (fun p q => p.1 = q.1 ∧ RespelledBlock p.2 q.2)
    (blockEntries d) (blockEntries d')
  template : (d'.field "template").fields? ≠ none
  template_eq : ∀ key, (d.field "template").field key = (d'.field "template").field key
  elements_eq : List.Forall₂ RespelledElement (elementItems d) (elementItems d')

/-! ## Leaving out fields -/

/-- The entries besides those for a text key. -/
def without (entries : List (Datum × Datum)) (key : String) : List (Datum × Datum) :=
  entries.filter fun p => p.1.text? != some key

theorem lookup?_cons (k v : Datum) (entries : List (Datum × Datum)) (key : String) :
    lookup? ((k, v) :: entries) key =
      if k.text? = some key then some v else lookup? entries key := by
  cases k <;> simp [lookup?, text?]

theorem without_cons (k v : Datum) (entries : List (Datum × Datum)) (key : String) :
    without ((k, v) :: entries) key =
      if k.text? = some key then without entries key else (k, v) :: without entries key := by
  unfold without
  rw [List.filter_cons]
  by_cases h : k.text? = some key <;> simp [h]

theorem lookup?_without (entries : List (Datum × Datum)) (key key' : String) :
    lookup? (without entries key) key' = if key' = key then none else lookup? entries key' := by
  induction entries with
  | nil => simp [without, lookup?]
  | cons p entries ih =>
    obtain ⟨k, v⟩ := p
    rw [without_cons, lookup?_cons]
    by_cases hk : k.text? = some key
    · rw [if_pos hk, ih]
      by_cases hkey : key' = key
      · rw [if_pos hkey, if_pos hkey]
      · have hne : k.text? ≠ some key' := by
          rw [hk]
          exact fun h => hkey (Option.some.inj h).symm
        rw [if_neg hkey, if_neg hkey, if_neg hne]
    · rw [if_neg hk, lookup?_cons, ih]
      by_cases hkey : key' = key
      · rw [if_pos hkey, if_pos hkey, if_neg (hkey ▸ hk)]
      · rw [if_neg hkey, if_neg hkey]

theorem lookup_without {entries : List (Datum × Datum)} {key : String}
    (h : lookup entries key = .null) (key' : String) :
    lookup entries key' = lookup (without entries key) key' := by
  unfold lookup at h ⊢
  rw [lookup?_without]
  by_cases hkey : key' = key
  · rw [if_pos hkey, hkey, h]
    rfl
  · rw [if_neg hkey]

/-! ## Reading another spelling -/

variable {d d' : Datum}

theorem RespelledBlock.readBlock_eq {name : String} {block : BlockDeclaration} {bind : Bool}
    (h : RespelledBlock d d') (hread : readBlock name d = .ok (block, bind)) :
    readBlock name d' = .ok (block, bind) := by
  cases h with
  | same => exact hread
  | source s => exact hread
  | @fields _ _ entries entries' hd hd' lookup_eq hbind =>
    obtain ⟨label, hd⟩ := entries?_eq_some_iff.1 hd
    obtain ⟨label', hd'⟩ := entries?_eq_some_iff.1 hd'
    rcases readBlock_cases hread with ⟨source, hd₁, -⟩ |
      ⟨_, _, source, styles, dependsOn, hd₁, hsource, hstyles, hdeps, hbind₁, rfl⟩
    · rw [hd] at hd₁
      cases hd₁
    · rw [hd] at hd₁
      cases hd₁
      rw [lookup_eq _ (by decide)] at hsource hstyles hdeps
      refine readBlock_of_map hd' hsource hstyles hdeps ?_
      rcases hbind with hbind | ⟨htrue, hnone⟩
      · rw [← readBind_congr hbind]
        exact hbind₁
      · unfold readBind at hbind₁ ⊢
        rw [htrue] at hbind₁
        rw [hnone]
        exact hbind₁

theorem RespelledElement.reads {e : WalkElement} (h : RespelledElement d d')
    (hread : ElementReadsAs d e) : ElementReadsAs d' e := by
  cases h with
  | same => exact hread
  | list hd =>
    rcases hread with ⟨hlist, hdynamic⟩ | ⟨label, entries, hd₁, -⟩
    · refine .inr ⟨none, _, rfl, hlist, ?_⟩
      rw [hdynamic]
      rfl
    · rw [items?_of_entries? (entries?_eq_some_iff.2 ⟨label, hd₁⟩)] at hd
      cases hd
  | null =>
    rcases hread with ⟨hlist, hdynamic⟩ | ⟨label, entries, hd₁, -⟩
    · refine .inr ⟨none, [], rfl, hlist, ?_⟩
      rw [hdynamic]
      rfl
    · cases hd₁
  | @fields _ _ entries entries' hd hd' lookup_eq =>
    obtain ⟨label, hd⟩ := entries?_eq_some_iff.1 hd
    obtain ⟨label', hd'⟩ := entries?_eq_some_iff.1 hd'
    rcases hread with ⟨hlist, -⟩ | ⟨_, _, hd₁, hstyles, hdynamic⟩
    · rw [listed?_of_map hd] at hlist
      cases hlist
    · rw [hd] at hd₁
      cases hd₁
      rw [lookup_eq] at hstyles hdynamic
      exact .inr ⟨label', entries', hd', hstyles, hdynamic⟩

theorem readTemplate_congr {identifier : String} (hd : d.fields? ≠ none) (hd' : d'.fields? ≠ none)
    (h : ∀ key, d.field key = d'.field key) :
    readTemplate identifier d = readTemplate identifier d' := by
  obtain ⟨entries, hentries⟩ := Option.ne_none_iff_exists'.1 hd
  obtain ⟨entries', hentries'⟩ := Option.ne_none_iff_exists'.1 hd'
  have hlookup : ∀ key, lookup entries key = lookup entries' key := by
    intro key
    have hkey := h key
    unfold field at hkey
    rwa [hentries, hentries'] at hkey
  rw [readTemplate_eq, readTemplate_eq, hentries, hentries']
  show readTemplateEntries identifier entries = readTemplateEntries identifier entries'
  unfold readTemplateEntries
  rw [hlookup, hlookup, hlookup]

theorem readsAs_of_respelled {p q : Datum × Datum} {r : ReadEntry} (hr : ReadsAs p r)
    (hkey : p.1 = q.1) (hblock : RespelledBlock p.2 q.2) : ReadsAs q r :=
  ⟨hkey ▸ hr.1, hblock.readBlock_eq hr.2⟩

/-- Data in another spelling is read as the same script. -/
theorem read_of_respelled {identifier : String} {s : WalkScript} (h : Respelled d d')
    (hread : read identifier d = .ok s) : read identifier d' = .ok s := by
  obtain ⟨hfields, hblocks, htemplate, helements, hrefs⟩ := read_ok_iff_fields.1 hread
  refine read_ok_iff_fields.2 ⟨h.fields, ?_, ?_, ?_, hrefs⟩
  · obtain ⟨entries, rs, hentries, hrs, hb, hknown⟩ := readBlocks_ok_iff.1 hblocks
    obtain ⟨entries', hentries'⟩ := Option.ne_none_iff_exists'.1 h.blocks
    have hsame := h.blocks_eq
    rw [blockEntries_eq hentries, blockEntries_eq hentries'] at hsame
    have hrs' : List.Forall₂ ReadsAs entries' rs :=
      forall₂_along hrs hsame fun _ _ _ hr hpq => readsAs_of_respelled hr hpq.1 hpq.2
    exact readBlocks_ok_iff.2 ⟨entries', rs, hentries', hrs', hb, hknown⟩
  · rw [← readTemplate_congr (exists_readTemplate_iff.1 ⟨_, htemplate⟩).1 h.template h.template_eq]
    exact htemplate
  · obtain ⟨items, hitems, hes⟩ := readElements_ok_iff.1 helements
    obtain ⟨items', hitems'⟩ := Option.ne_none_iff_exists'.1 h.elements
    have hsame := h.elements_eq
    rw [elementItems_eq hitems, elementItems_eq hitems'] at hsame
    have hes' : List.Forall₂ ElementReadsAs items' s.elements :=
      forall₂_along hes hsame fun _ _ _ he hpq => hpq.reads he
    exact readElements_ok_iff.2 ⟨items', hitems', hes'⟩

end WalkScript

end StyleUsage
