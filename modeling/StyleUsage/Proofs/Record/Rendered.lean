import StyleUsage.Proofs.Datum.Rendered
import StyleUsage.Proofs.Record.Reload
import StyleUsage.Proofs.Summary.Canonical
import StyleUsage.Yaml.Writer

/-!
# Loading rendered summaries back

A rendered summary has sorted keys: its blocks come back in the order of their names, and the
payload of its template with the keys in it sorted (`Summary.sortKeys`). Reading looks fields up by
name, so this is all that changes (`read_sortKeys`). What is rendered therefore loads back as a
record with an equal summary and the same digest (`rendered_loads_back`).
-/

namespace StyleUsage

/-! ## Sorted keys -/

def Descriptor.fields (d : Descriptor) : List (String × Datum) :=
  [("type", .str d.type), ("identifier", d.identifier)] ++
    match d.data with
    | some items => [("data", .list none items)]
    | none => []

theorem Descriptor.nodup_keys_fields (d : Descriptor) : (Entries.keys d.fields).Nodup := by
  unfold fields
  cases d.data <;> simp [Entries.keys]

/-- What a descriptor comes back as when it is written as JSON and read. -/
def Descriptor.sortKeys (d : Descriptor) : Descriptor :=
  { d with data := d.data.map fun items =>
      Datum.ofJsonList (Json.sortKeysList (Datum.shownItems items)) }

/-- What a summary comes back as when it is written as JSON and read. -/
def Summary.sortKeys (s : Summary) : Summary :=
  { s with template := s.template.sortKeys, blocks := s.blocks.mergeSort Entries.keyLE }

theorem Summary.WellFormed.sortKeys {s : Summary} (h : s.WellFormed) : s.sortKeys.WellFormed where
  identifier_text := h.identifier_text
  names_sorted := h.names_sorted
  dynamic_sorted := h.dynamic_sorted
  dynamic_lt := h.dynamic_lt
  correlation_sorted := h.correlation_sorted
  correlation_lt := h.correlation_lt
  two_le_length := h.two_le_length

theorem Summary.sortKeys_ofStrings (names : List String) :
    (Datum.ofStrings names).sortKeys = Datum.ofStrings names :=
  Datum.sortKeys_list_map (fun _ => rfl) names

theorem Summary.sortKeys_ofPlaces (places : List Nat) :
    (ofPlaces places).sortKeys = ofPlaces places :=
  Datum.sortKeys_list_map (fun _ => rfl) places

theorem Summary.sortKeys_correlations (correlations : List (List Nat)) :
    (Datum.list none (correlations.map ofPlaces)).sortKeys =
      Datum.list none (correlations.map ofPlaces) :=
  Datum.sortKeys_list_map sortKeys_ofPlaces correlations

namespace Record

theorem require_eq_ok {entries : List (Datum × Datum)} {key : String} {d : Datum}
    (h : Datum.lookup? entries key = some d) : require entries key = .ok d := by
  unfold require
  rw [h]

theorem readTemplate_sortKeys {d : Descriptor} {text : String} (h : d.identifier = .str text) :
    readTemplate d.toDatum.sortKeys = .ok d.sortKeys := by
  obtain ⟨entries, hentries, hlookup⟩ := Datum.exists_entries_sortKeys d.fields d.nodup_keys_fields
  have hentries' : d.toDatum.sortKeys.entries? = some entries := hentries
  have htype : Datum.lookup? entries "type" = some (.str d.type) := hlookup "type"
  have hidentifier : Datum.lookup? entries "identifier" = some (.str text) := by
    rw [hlookup]
    exact congrArg (fun identifier => some identifier.sortKeys) h
  have hdata : Datum.lookup? entries "data" =
      d.data.map fun items => (Datum.list none items).sortKeys := by
    rw [hlookup]
    unfold Descriptor.fields
    cases d.data <;> rfl
  simp only [readTemplate, Datum.lookup, hentries', Option.getD_some, htype, hidentifier, hdata]
  unfold Descriptor.sortKeys
  rw [h]
  cases d.data <;> rfl

theorem read_sortKeys (registry : Registry) {s : Summary} {text : String}
    (h : s.template.identifier = .str text) :
    read registry s.toDatum.sortKeys = read registry s.sortKeys.toDatum := by
  -- Every part is looked up by its name, so it does not matter where in the object it stands.
  obtain ⟨entries, hentries, hlookup⟩ := Datum.exists_entries_sortKeys [
    ("template", s.template.toDatum),
    ("blocks", .ofFields (Entries.mapValues .str s.blocks)),
    ("stylesFound", .ofStrings s.stylesFound),
    ("dynamicStyles", Summary.ofPlaces s.dynamicStyles),
    ("styleCorrelations", .list none (s.styleCorrelations.map Summary.ofPlaces))]
    (by simp [Entries.keys])
  have hentries' : s.toDatum.sortKeys.entries? = some entries := hentries
  have htemplate := require_eq_ok (hlookup "template")
  have hblocks := require_eq_ok (hlookup "blocks")
  have hstyles := require_eq_ok (hlookup "stylesFound")
  have hdynamic := require_eq_ok (hlookup "dynamicStyles")
  have hcorrelations := require_eq_ok (hlookup "styleCorrelations")
  rw [Datum.sortKeys_texts] at hblocks
  rw [Summary.sortKeys_ofStrings] at hstyles
  rw [Summary.sortKeys_ofPlaces] at hdynamic
  rw [Summary.sortKeys_correlations] at hcorrelations
  have hdescriptor : readTemplate s.sortKeys.template.toDatum = .ok s.template.sortKeys :=
    readTemplate_toDatum h
  rw [← readTemplate_sortKeys h] at hdescriptor
  conv_lhs => unfold read
  rw [hentries']
  dsimp only
  rw [htemplate, hblocks, hstyles, hdynamic, hcorrelations]
  show (readTemplate s.template.toDatum.sortKeys >>= _) = _
  rw [← hdescriptor]
  rfl

end Record

/-! ## Equal descriptors -/

/-- A descriptor that is JSON comes back as an equal one. -/
theorem Descriptor.sortKeys_same {d : Descriptor} (hidentifier : ∃ text, d.identifier = .str text)
    (hdata : ∀ items, d.data = some items → Datum.IsPlainItems [] items) :
    Datum.Same d.sortKeys.toDatum d.toDatum := by
  have hsorted : ∀ items, d.sortKeys.data = some items → Datum.IsPlainItems [] items := by
    intro items hitems
    obtain ⟨old, hold, rfl⟩ := Option.map_eq_some_iff.1 hitems
    exact Datum.isPlainItems_ofJsonList (Datum.isPlainList_shownItems (hdata old hold)).sortKeys
  refine ⟨isPlain_toDatum hidentifier hsorted, isPlain_toDatum hidentifier hdata, ?_⟩
  show Json.Same (Datum.shown (.ofFields d.sortKeys.fields)) (Datum.shown (.ofFields d.fields))
  rw [Datum.shown_ofFields, Datum.shown_ofFields]
  obtain ⟨type, identifier, data⟩ := d
  obtain ⟨text, rfl⟩ := hidentifier
  cases data with
  | none => simp [fields, sortKeys, Datum.shown, Json.Same, Json.SameFields]
  | some items =>
    have hplain : (Json.arr (Datum.shownItems items)).IsPlain :=
      Datum.isPlainList_shownItems (hdata items rfl)
    have hitems : Json.SameList (Json.sortKeysList (Datum.shownItems items))
        (Datum.shownItems items) := Json.same_sortKeys hplain
    simp [fields, sortKeys, Datum.shown, Datum.shownItems_ofJsonList, Json.Same, Json.SameFields,
      hitems]

/-! ## Summaries -/

namespace Summary

/-- A summary is read back as a record with an equal summary, once its template is rebuilt as one
with an equal descriptor. -/
theorem exists_read_sortKeys {s : Summary} (hs : s.WellFormed) (hplain : s.toDatum.IsPlain [])
    (hkeys : (Entries.keys s.blocks).Nodup) {registry : Registry} {info : TemplateInfo}
    (hrebuild : registry.rebuild s.template.sortKeys = .ok info)
    (hinfo : Datum.Same info.describe.toDatum s.template.toDatum) :
    ∃ r, Record.read registry s.toDatum.sortKeys = .ok r ∧
      Datum.Same r.toSummary.toDatum s.toDatum := by
  obtain ⟨text, htext⟩ := hs.identifier_text
  have hperm : (s.blocks.mergeSort Entries.keyLE).Perm s.blocks := List.mergeSort_perm _ _
  have hkeys' : (Entries.keys (s.blocks.mergeSort Entries.keyLE)).Nodup :=
    Entries.nodup_keys_of_perm hkeys hperm.symm
  have hblocks : ∀ name, Entries.get? (s.blocks.mergeSort Entries.keyLE) name =
      Entries.get? s.blocks name := (Entries.perm_iff_get? hkeys' hkeys).1 hperm
  have hread := Record.read_toDatum hs.sortKeys hrebuild
  rw [← Record.read_sortKeys registry htext] at hread
  refine ⟨_, hread, isPlain_toDatum hinfo.1 hkeys', hplain, ?_⟩
  exact (same_toDatum_iff hkeys' hkeys).2 ⟨hinfo.2.2, hblocks, rfl, rfl, rfl⟩

/-- Equal summaries have one digest. -/
theorem digest_of_same {s s' : Summary} (h : Datum.Same s.toDatum s'.toDatum) :
    ∃ address, s.digest = .ok address ∧ s'.digest = .ok address := by
  obtain ⟨hs, hs', hsame⟩ := h
  unfold digest canonical
  rw [(Datum.canonical_eq_iff hs hs').2 hsame, Datum.canonical_eq_ok hs']
  exact ⟨_, rfl, rfl⟩

end Summary

namespace Analysis

variable {β σ : Type} [DecidableEq β] [DecidableEq σ] (c : Catalog β σ)

/-- **What is rendered loads back.** Whatever steps were taken and however the summary is indented,
it can be rendered as JSON, and what is read from its text is equal to it, also when the text is
read from a file. The text has the descriptor of the template with sorted keys, which is equal to
the descriptor. For every registry that rebuilds a template with an equal descriptor from it, the
text loads as a record with an equal summary and the same digest. -/
theorem rendered_loads_back {t : TemplateInfo} (ht : t.IsPlain) (steps : List (WalkStep β σ))
    (writeYaml : Datum → Except Datum.WritingError String) (indent : Int) :
    let s := ((begin t).run steps).summarize c
    Datum.Same t.describe.sortKeys.toDatum t.describe.toDatum ∧
    ∃ text j, render writeYaml .json indent s.toDatum = .ok text ∧
      Json.read text = .ok j ∧ Datum.Same (.ofJson j) s.toDatum ∧
      Json.read (Text.ofFile text) = .ok j ∧
      ∀ registry info, Registry.rebuild registry t.describe.sortKeys = .ok info →
        Datum.Same info.describe.toDatum t.describe.toDatum →
        ∃ r address, Record.read registry (.ofJson j) = .ok r ∧
          Datum.Same r.toSummary.toDatum s.toDatum ∧
          r.toSummary.digest = .ok address ∧ s.digest = .ok address := by
  intro s
  have hcoherent : ((begin t : Analysis β σ).run steps).Coherent := coherent_run t steps
  have htemplate : ((begin t : Analysis β σ).run steps).template = t := template_run (begin t) steps
  have hdescribe : s.template = t.describe := congrArg TemplateInfo.describe htemplate
  have hkeys : (Entries.keys s.blocks).Nodup := keys_blocks_summarize c hcoherent
  have hplain : s.toDatum.IsPlain [] :=
    Summary.isPlain_toDatum (hdescribe ▸ isPlain_describe ht) hkeys
  have hsorted : s.toDatum.shown.sortKeys.IsPlain := (Datum.isPlain_shown hplain).sortKeys
  have hread := Json.read_rendered hsorted indent
  refine ⟨Descriptor.sortKeys_same ht.1 fun _ => ht.data_describe, _, _,
    Datum.render_json_eq hplain writeYaml indent, hread, Datum.sortKeys_same hplain, ?_, ?_⟩
  · rw [Json.ofFile_rendered hsorted]
    exact hread
  · intro registry info hrebuild hinfo
    obtain ⟨text, htext⟩ := ht.1
    have hwell : s.WellFormed := wellFormed_summarize c hcoherent (htemplate.symm ▸ htext)
    rw [← hdescribe] at hrebuild hinfo
    obtain ⟨r, hr, hsame⟩ := Summary.exists_read_sortKeys hwell hplain hkeys hrebuild hinfo
    obtain ⟨address, hdigest, hdigest'⟩ := Summary.digest_of_same hsame
    exact ⟨r, address, hr, hsame, hdigest, hdigest'⟩

/-- A template that keeps an object with its keys out of order, carriage returns and characters
outside ASCII in the identifier, a local name and a source, a negative indentation, and a registry
with a constructor that keeps the payload. -/
theorem rendered_loads_back_unsorted :
    let kind : TemplateKind := ⟨"Page", "App.Page"⟩
    let t : TemplateInfo :=
      ⟨kind, .str "a\r\nb", [.map (some 0) [(.str "b", .int 1), (.str "a", .null)]]⟩
    let c : Catalog Nat Nat := ⟨fun _ => "ä\r.css", [], fun x => x / 10, fun _ => ".\u007f\u2028"⟩
    let steps : List (WalkStep Nat Nat) :=
      [.bind "ü\r" 1, .start, .add 10, .add 0, .mark 0, .finish, .start, .add 11]
    let s := ((begin t).run steps).summarize c
    let registry := Registry.initial.register "App.Page"
      ⟨"app.Page", some kind, fun identifier payload => ⟨kind, identifier, payload⟩⟩
    let writeYaml : Datum → Except Datum.WritingError String := fun d => .ok (Yaml.write d)
    (t.IsPlain ∧ ∃ info, registry.rebuild t.describe.sortKeys = .ok info ∧
      Datum.Same info.describe.toDatum t.describe.toDatum) ∧
    ∃ text j, render writeYaml .json (-3) s.toDatum = .ok text ∧
      Json.read text = .ok j ∧ Datum.Same (.ofJson j) s.toDatum ∧
      Json.read (Text.ofFile text) = .ok j ∧
      ∃ r address, Record.read registry (.ofJson j) = .ok r ∧
        Datum.Same r.toSummary.toDatum s.toDatum ∧
        r.toSummary.digest = .ok address ∧ s.digest = .ok address := by
  intro kind t c steps s registry writeYaml
  have hpayload : Datum.IsPlainItems [] t.payload :=
    ⟨⟨rfl, by simp, ⟨"b", rfl⟩, trivial, ⟨"a", rfl⟩, trivial, trivial⟩, trivial⟩
  have ht : t.IsPlain := ⟨⟨"a\r\nb", rfl⟩, hpayload⟩
  obtain ⟨hsame, text, j, htext, hj, hequal, hfile, hload⟩ :=
    rendered_loads_back c ht steps writeYaml (-3)
  have hrebuild : registry.rebuild t.describe.sortKeys =
      .ok ⟨kind, .str "a\r\nb", t.describe.sortKeys.data.getD []⟩ := rfl
  exact ⟨⟨ht, _, hrebuild, hsame⟩, text, j, htext, hj, hequal, hfile,
    hload registry _ hrebuild hsame⟩

end Analysis

end StyleUsage
