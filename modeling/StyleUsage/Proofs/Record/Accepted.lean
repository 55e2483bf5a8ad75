import StyleUsage.Proofs.Datum.Uses
import StyleUsage.Proofs.Record.Shape
import StyleUsage.Proofs.Walk.Outcome

/-!
# Which values are read as records

A summary is read from a JSON value with checks before every use of a part. Here the same checks are
made once more, in their order, but every use may fail (`Record.tryRead`). No use fails, so what is
refused is refused by a check (`sameOutcome_read`), and a value is read exactly if it has the shape
of a well-formed summary and the type of its template is registered (`read_ofJson_iff`).
-/

namespace StyleUsage

namespace Datum

theorem lookup_text?_iff {entries : List (Datum × Datum)} {key text : String} :
    (lookup entries key).text? = some text ↔ lookup? entries key = some (.str text) := by
  unfold lookup
  cases lookup? entries key with
  | none => simp [text?]
  | some d => cases d <;> simp [text?]

end Datum

namespace Record

open Datum

/-! ## Reading with uses that may fail -/

def checkPlace (size : Nat) (part : PlaceList) (d : Datum) :
    Except (UseError RecordError) Unit := do
  check d.int?.isSome (.notAnInteger part)
  let i ← useAs int? d
  check (0 ≤ i ∧ i < size) (.outOfRange part i size)

/-- Use a value as a sorted list of places. -/
def tryPlaces (size : Nat) (part : PlaceList) (d : Datum) :
    Except (UseError RecordError) (List Nat) := do
  check d.items?.isSome (.notAList part)
  let items ← useAs items? d
  items.forM (checkPlace size part)
  let places ← items.mapM (useAs int?)
  check (isAscending places) (.unsorted part)
  .ok (places.map Int.toNat)

/-- Use values as the correlations from the one with number `n` on. -/
def tryCorrelations (size : Nat) :
    Nat → List Datum → Except (UseError RecordError) (List (List Nat))
  | _, [] => .ok []
  | n, d :: rest => do
    let places ← tryPlaces size (.correlation n) d
    check (1 < places.length) (.shortCorrelation n)
    let others ← tryCorrelations size (n + 1) rest
    .ok (places :: others)

/-- Use a value as the field `template`. -/
def tryTemplate (d : Datum) : Except (UseError RecordError) (List (Datum × Datum)) := do
  check d.entries?.isSome .malformedTemplate
  let entries ← useAs entries? d
  check ((lookup entries "type").text?.isSome && (lookup entries "identifier").text?.isSome)
    .malformedTemplate
  if (lookup? entries "data").isSome then
    let data ← useKey entries "data"
    check data.items?.isSome .malformedPayload
  .ok entries

/-- Use an entry as a local name with the source of its block. -/
def trySource (p : Datum × Datum) : Except (UseError RecordError) (String × String) := do
  let name ← useAs text? p.1
  let source ← useAs text? p.2
  .ok (name, source)

/-- Use a value as the field `blocks`. -/
def tryBlocks (d : Datum) : Except (UseError RecordError) (Entries String String) := do
  check d.entries?.isSome .malformedBlocks
  let entries ← useAs entries? d
  check (entries.all fun p => p.2.text?.isSome) .malformedBlocks
  entries.mapM trySource

/-- Use a value as the field `stylesFound`. -/
def tryStyles (d : Datum) : Except (UseError RecordError) (List String) := do
  check d.items?.isSome .malformedStyles
  let items ← useAs items? d
  check (items.all fun item => item.text?.isSome) .malformedStyles
  let names ← items.mapM (useAs text?)
  check (isAscending names) .unsortedStyles
  .ok names

/-- The cause for which a template cannot be rebuilt from its entries. -/
def ofDescriptorError : DescriptorError → UseError RecordError
  | .unknownType type => .refused (.template (.unknownType type))
  | .missing field => .missingKey field
  | .noItems kind => .wrongKind kind

/-- The fields that a summary must have. -/
def requiredFields : List String :=
  ["template", "blocks", "stylesFound", "dynamicStyles", "styleCorrelations"]

/-- Read a record. Nothing is known of a value unless it was checked, so every use may fail. -/
def tryRead (registry : Registry) (data : Datum) : Except (UseError RecordError) Record := do
  check data.entries?.isSome .notAnObject
  let entries ← useAs entries? data
  requiredFields.forM fun key => check (lookup? entries key).isSome (.missingField key)
  let template ← useKey entries "template"
  let fields ← tryTemplate template
  let blocks ← useKey entries "blocks"
  let blocks ← tryBlocks blocks
  let styles ← useKey entries "stylesFound"
  let stylesFound ← tryStyles styles
  let dynamic ← useKey entries "dynamicStyles"
  let dynamicStyles ← tryPlaces stylesFound.length .dynamicStyles dynamic
  let correlations ← useKey entries "styleCorrelations"
  check correlations.items?.isSome .malformedCorrelations
  let items ← useAs items? correlations
  let styleCorrelations ← tryCorrelations stylesFound.length 0 items
  let template ← (registry.rebuildEntries fields).mapError ofDescriptorError
  .ok { template, blocks, stylesFound, dynamicStyles, styleCorrelations }

/-! ## No use fails -/

theorem sameOutcome_place (size : Nat) (part : PlaceList) (d : Datum) :
    SameOutcome .refused (fun i _ => d = .int (Int.ofNat i)) (readPlace size part d)
      (checkPlace size part d) := by
  unfold checkPlace
  refine .useAs rfl (fun i hi => ?_) fun hnone => ?_
  · rw [int?_eq_some_iff.1 hi]
    simp only [readPlace, check, decide_eq_true_eq]
    split
    · next h => exact .ok (congrArg Datum.int (Int.toNat_of_nonneg h.1).symm)
    · exact .error _
  · cases d <;> first | rfl | cases hnone

theorem sameOutcome_placeItems (size : Nat) (part : PlaceList) (items : List Datum) :
    SameOutcome .refused (fun places _ => items = places.map fun i => .int (Int.ofNat i))
      (items.mapM (readPlace size part)) (items.forM (checkPlace size part)) := by
  induction items with
  | nil => exact .ok rfl
  | cons d items ih =>
    rw [List.mapM_cons]
    show SameOutcome _ _ _ (checkPlace size part d >>= fun _ => items.forM (checkPlace size part))
    refine (sameOutcome_place size part d).bind fun i _ hd => ?_
    rw [← bind_pure (items.forM _)]
    refine ih.bind fun places _ hitems => .ok ?_
    rw [hd, hitems]
    rfl

theorem isAscending_map_ofNat (places : List Nat) :
    isAscending (places.map Int.ofNat) = isAscending places := by
  rw [Bool.eq_iff_iff, isAscending_iff, isAscending_iff, List.pairwise_map]
  simp

theorem sameOutcome_places (size : Nat) (part : PlaceList) (d : Datum) :
    SameOutcome .refused Eq (readPlaces size part d) (tryPlaces size part d) := by
  unfold readPlaces tryPlaces
  refine .useAs rfl (fun items hitems => ?_) fun hnone => by rw [hnone]
  rw [hitems]
  refine (sameOutcome_placeItems size part items).bind fun places _ heq => ?_
  have hints : items.mapM int? = some (places.map Int.ofNat) := by
    rw [mapM_eq_some_iff fun _ _ => int?_eq_some_iff, heq, List.map_map]
    rfl
  rw [mapM_useAs_eq_ok hints]
  show SameOutcome _ _ _ (check (isAscending (places.map Int.ofNat)) _ >>= fun _ => _)
  rw [isAscending_map_ofNat]
  refine .check rfl (fun h => ?_) fun h => if_neg (by simp [h])
  rw [if_pos h]
  refine .ok ?_
  rw [List.map_map]
  exact (List.map_id places).symm

theorem sameOutcome_correlations (size : Nat) : ∀ (n : Nat) (items : List Datum),
    SameOutcome .refused Eq (readCorrelations size n items) (tryCorrelations size n items)
  | _, [] => .ok rfl
  | n, d :: rest => by
    unfold readCorrelations tryCorrelations
    refine (sameOutcome_places size (.correlation n) d).bind ?_
    rintro places _ rfl
    refine .check rfl (fun h => ?_) fun h => ?_
    · have hlen : 1 < places.length := of_decide_eq_true h
      rw [if_neg (by omega)]
      refine (sameOutcome_correlations size (n + 1) rest).bind ?_
      rintro others _ rfl
      exact .ok rfl
    · have hlen : ¬ 1 < places.length := of_decide_eq_false h
      exact if_pos (by omega)

theorem sameOutcome_styles (d : Datum) :
    SameOutcome .refused Eq (readStyles d) (tryStyles d) := by
  unfold readStyles tryStyles
  refine .useAs rfl (fun items hitems => ?_) fun hnone => by rw [hnone]; rfl
  rw [hitems, Option.bind_some]
  refine .useAll rfl (fun names hnames => ?_) fun hnone => by rw [hnone]
  rw [hnames]
  dsimp only
  refine .check rfl (fun h => ?_) fun h => if_neg (by simp [h])
  rw [if_pos h]
  exact .ok rfl

theorem payloadOf_eq_ok {d : Datum} {items : List Datum} (h : d.items? = some items) :
    Registry.payloadOf d = .ok items := by
  unfold items? at h
  unfold Registry.payloadOf
  split at h
  · next heq =>
    cases h
    rw [heq]
  · cases h

/-- The entries of a template that was read say what its descriptor says. -/
theorem sameOutcome_template (d : Datum) :
    SameOutcome .refused
      (fun descriptor entries => ∀ registry : Registry,
        registry.rebuildEntries entries = registry.rebuild descriptor)
      (readTemplate d) (tryTemplate d) := by
  unfold readTemplate tryTemplate
  refine .useAs rfl (fun entries hentries => ?_) fun hnone => by rw [hnone]; rfl
  rw [hentries, Option.getD_some]
  dsimp only
  refine .check rfl (fun h => ?_) fun h => ?_
  · obtain ⟨htype, hidentifier⟩ := Bool.and_eq_true_iff.1 h
    obtain ⟨type, htype⟩ := Option.isSome_iff_exists.1 htype
    obtain ⟨identifier, hidentifier⟩ := Option.isSome_iff_exists.1 hidentifier
    rw [lookup_text?_iff] at htype hidentifier
    have hrebuild : ∀ registry : Registry, registry.rebuildEntries entries = (do
        let payload ← Registry.payloadOf (lookup entries "data")
        registry.create type (.str identifier) payload) := by
      intro registry
      unfold Registry.rebuildEntries
      rw [htype, hidentifier]
      rfl
    rw [htype, hidentifier]
    unfold lookup at hrebuild ⊢
    cases hdata : lookup? entries "data" with
    | none =>
      rw [hdata] at hrebuild
      exact .ok hrebuild
    | some data =>
      rw [hdata, Option.getD_some] at hrebuild
      show SameOutcome _ _ _ (useKey entries "data" >>= fun data => _)
      rw [useKey_bind hdata]
      refine .check rfl (fun h => ?_) fun h => ?_
      · obtain ⟨items, hitems⟩ := Option.isSome_iff_exists.1 h
        simp only [Option.getD_some, hitems]
        refine .ok fun registry => ?_
        rw [hrebuild, payloadOf_eq_ok hitems]
        rfl
      · have hnone : data.items? = none := by simpa using h
        simp only [Option.getD_some, hnone]
  · split
    · next htype hidentifier =>
      rw [lookup_text?_iff.2 htype, lookup_text?_iff.2 hidentifier] at h
      cases h
    · rfl

theorem sameOutcome_blocks (v : Json) :
    SameOutcome .refused Eq (readBlocks (.ofJson v)) (tryBlocks (.ofJson v)) := by
  rw [readBlocks_eq]
  unfold tryBlocks
  refine .useAs rfl (fun entries hentries => ?_) fun hnone => by rw [hnone]; rfl
  obtain ⟨fields, -, rfl⟩ := entries?_ofJson_iff.1 hentries
  have hall : ((ofJsonFields fields).all fun p => p.2.text?.isSome) =
      (ofJsonFields fields).all fun p => (source? p).isSome := by
    rw [ofJsonFields_eq_map, List.all_map, List.all_map]
    congr 1
    funext p
    show (ofJson p.2).text?.isSome = (source? (.str p.1, ofJson p.2)).isSome
    cases p.2 <;> rfl
  rw [hentries, Option.bind_some, hall, all_isSome_eq]
  refine .check rfl (fun h => ?_) fun h => ?_
  · obtain ⟨blocks, hblocks⟩ := Option.isSome_iff_exists.1 h
    have htry : (blocks.map fun p => (Datum.str p.1, Datum.str p.2)).mapM trySource = .ok blocks :=
      mapM_map_eq_pure fun _ _ => rfl
    rw [hblocks, mapM_source?_eq_some_iff.1 hblocks, htry]
    exact .ok rfl
  · have hnone : (ofJsonFields fields).mapM source? = none := by simpa using h
    rw [hnone]

theorem SameOutcome.require {α α' : Type} {R : α → α' → Prop} {entries : List (Datum × Datum)}
    {key : String} {k : Datum → Except RecordError α} {k' : Unit → Except (UseError RecordError) α'}
    (h : ∀ d, lookup? entries key = some d → SameOutcome .refused R (k d) (k' ())) :
    SameOutcome .refused R (require entries key >>= k)
      (check (lookup? entries key).isSome (.missingField key) >>= k') := by
  unfold Record.require
  cases hd : lookup? entries key with
  | none => exact .error _
  | some d => exact h d hd

theorem sameOutcome_rebuild {registry : Registry} {d : Descriptor} {entries : List (Datum × Datum)}
    (h : registry.rebuildEntries entries = registry.rebuild d) :
    SameOutcome .refused Eq ((registry.rebuild d).mapError .template)
      ((registry.rebuildEntries entries).mapError ofDescriptorError) := by
  rw [h]
  rcases WalkScript.rebuild_cases registry d with ⟨-, template, hinfo⟩ | ⟨-, hinfo⟩
  · rw [hinfo]
    exact .ok rfl
  · rw [hinfo]
    exact .error _

/-- No use fails while a JSON value is read. -/
theorem sameOutcome_read (registry : Registry) (j : Json) :
    SameOutcome .refused Eq (read registry (.ofJson j)) (tryRead registry (.ofJson j)) := by
  unfold read tryRead
  refine .useAs rfl (fun entries hentries => ?_) fun hnone => by rw [hnone]
  obtain ⟨fields, -, rfl⟩ := entries?_ofJson_iff.1 hentries
  rw [hentries]
  simp only [requiredFields, List.forM_eq_forM, List.forM_cons, List.forM_nil, bind_assoc,
    pure_bind]
  refine SameOutcome.require fun template htemplate => ?_
  refine SameOutcome.require fun blocks hblocks => ?_
  refine SameOutcome.require fun styles hstyles => ?_
  refine SameOutcome.require fun dynamic hdynamic => ?_
  refine SameOutcome.require fun correlations hcorrelations => ?_
  rw [useKey_bind htemplate]
  refine (sameOutcome_template template).bind fun descriptor entries hrebuild => ?_
  rw [useKey_bind hblocks]
  rw [lookup?_ofJsonFields] at hblocks
  obtain ⟨blocks, -, rfl⟩ := Option.map_eq_some_iff.1 hblocks
  refine (sameOutcome_blocks blocks).bind ?_
  rintro sources _ rfl
  rw [useKey_bind hstyles]
  refine (sameOutcome_styles styles).bind ?_
  rintro names _ rfl
  rw [useKey_bind hdynamic]
  refine (sameOutcome_places names.length .dynamicStyles dynamic).bind ?_
  rintro places _ rfl
  rw [useKey_bind hcorrelations]
  refine .useAs rfl (fun items hitems => ?_) fun hnone => by rw [hnone]; rfl
  rw [hitems]
  refine (sameOutcome_correlations names.length 0 items).bind ?_
  rintro cs _ rfl
  refine (sameOutcome_rebuild (hrebuild registry)).bind ?_
  rintro info _ rfl
  exact .ok rfl

/-! ## What is read -/

/-- The names of the places of a well-formed summary can be looked up. -/
theorem mapM_correlationNames {r : Record}
    (h : ∀ c ∈ r.styleCorrelations, ∀ i ∈ c, i < r.stylesFound.length) :
    r.styleCorrelations.mapM (fun c => c.mapM fun i => r.stylesFound[i]?) =
      some r.correlationNames := by
  refine mapM_eq_pure fun c hc => mapM_eq_pure fun i hi => ?_
  rw [List.getElem?_eq_getElem (h c hc i hi)]
  rfl

/-- Reading gives a record, or fails for an unknown type once the shape is checked, or fails in
checking the shape. -/
theorem read_cases (registry : Registry) (data : Datum) :
    (∃ s template, readSummary data = .ok s ∧ s.template.type ∈ Entries.keys registry ∧
      registry.rebuild s.template = .ok template ∧ read registry data =
        .ok ⟨template, s.blocks, s.stylesFound, s.dynamicStyles, s.styleCorrelations⟩) ∨
    (∃ s, readSummary data = .ok s ∧ s.template.type ∉ Entries.keys registry ∧
      read registry data = .error (.template (.unknownType s.template.type))) ∨
    (∃ e, readSummary data = .error e ∧ (∀ cause, e ≠ .template cause) ∧
      read registry data = .error e) := by
  rw [read_eq_readSummary]
  cases hs : readSummary data with
  | error e =>
    refine .inr (.inr ⟨e, rfl, fun cause he => ?_, rfl⟩)
    exact ChecksShape.readSummary data cause (he ▸ hs)
  | ok s =>
    rcases WalkScript.rebuild_cases registry s.template with
      ⟨htype, template, hinfo⟩ | ⟨htype, hinfo⟩
    · refine .inl ⟨s, template, rfl, htype, hinfo, ?_⟩
      show ((registry.rebuild s.template).mapError _ >>= _) = _
      rw [hinfo]
      rfl
    · refine .inr (.inl ⟨s, rfl, htype, ?_⟩)
      show ((registry.rebuild s.template).mapError _ >>= _) = _
      rw [hinfo]
      rfl

/-- **A record is read exactly from a summary.** A JSON value is read if it has the fields of a
well-formed summary and the type of its template is registered. If it has these fields, but the type
is not registered, then this is the cause; else it has not the shape of a summary, and the cause is
found by a check of the shape. Nothing else fails. A record that was read shows the blocks, the
names, the dynamic styles and the correlations of the value, and has a name for each place. -/
theorem read_ofJson_iff (registry : Registry) (j : Json) :
    let d := Datum.ofJson j
    let shape := fun s : Summary => s.WrittenAs j ∧ s.WellFormed
    ((∃ r, read registry d = .ok r) ↔
      ∃ s, shape s ∧ s.template.type ∈ Entries.keys registry) ∧
    (∀ type, read registry d = .error (.template (.unknownType type)) ↔
      (∃ s, shape s ∧ s.template.type = type) ∧ type ∉ Entries.keys registry) ∧
    ((∃ e, read registry d = .error e ∧ ∀ cause, e ≠ .template cause) ↔ ¬ ∃ s, shape s) ∧
    tryRead registry d = (read registry d).mapError .refused ∧
    ∀ r, read registry d = .ok r →
      (∀ key ∈ plainFields, ∃ v, j.field? key = some v ∧
        (shown r.toSummary.toDatum).field? key = some v) ∧
      r.styleCorrelations.mapM (fun c => c.mapM fun i => r.stylesFound[i]?) =
        some r.correlationNames := by
  intro d shape
  have hshape : ∀ s, shape s ↔ readSummary d = .ok s := fun s => readSummary_ofJson_ok_iff.symm
  simp only [hshape]
  have htry := (sameOutcome_read registry j).eq_mapError
  rcases read_cases registry d with ⟨s, template, hs, htype, hinfo, hread⟩ | ⟨s, hs, htype, hread⟩ |
    ⟨e, hs, he, hread⟩
  · refine ⟨?_, ?_, ?_, htry, fun r hr => ?_⟩
    · simp [hread, hs, htype]
    · intro type
      simp only [hread, hs, reduceCtorEq, Except.ok.injEq, exists_eq_left', false_iff, not_and,
        not_not]
      rintro rfl
      exact htype
    · simp [hread, hs]
    · rw [hread] at hr
      cases hr
      obtain ⟨hwritten, hwell⟩ := readSummary_ofJson_ok_iff.1 hs
      exact ⟨field?_shown_of_writtenAs hwritten _, mapM_correlationNames hwell.correlation_lt⟩
  · refine ⟨?_, ?_, ?_, htry, fun r hr => ?_⟩
    · simp [hread, hs, htype]
    · intro type
      simp only [hread, hs, Except.error.injEq, RecordError.template.injEq,
        DescriptorError.unknownType.injEq, Except.ok.injEq, exists_eq_left']
      constructor
      · rintro rfl
        exact ⟨rfl, htype⟩
      · exact And.left
    · simp [hread, hs]
    · rw [hread] at hr
      cases hr
  · refine ⟨?_, ?_, ?_, htry, fun r hr => ?_⟩
    · simp [hread, hs]
    · simp [hread, hs, he]
    · simpa [hread, hs] using he
    · rw [hread] at hr
      cases hr

/-- Fields in another order and one too many, a name and a place twice, and a payload, once with a
type that is registered and once with one that is not. -/
theorem read_ofJson_iff_repeated :
    let json : String → Json := fun type => .obj [
      ("note", .null),
      ("styleCorrelations", .arr [.ofPlaces [0, 0, 2]]),
      ("dynamicStyles", .ofPlaces [1]),
      ("stylesFound", .ofStrings ["a.x", "a.x", "b.y"]),
      ("blocks", .obj [("b", .str "b.css"), ("a", .str "")]),
      ("template", .obj [("data", .arr [.null]), ("identifier", .str ""), ("type", .str type)])]
    (∃ r, read .initial (.ofJson (json TemplateKind.base.typeName)) = .ok r ∧
      r.styleCorrelations.mapM (fun c => c.mapM fun i => r.stylesFound[i]?) =
        some r.correlationNames) ∧
    read .initial (.ofJson (json "Page")) = .error (.template (.unknownType "Page")) := by
  intro json
  have hshape : ∀ type, ∃ s : Summary, (s.WrittenAs (json type) ∧ s.WellFormed) ∧
      s.template.type = type := by
    intro type
    let s : Summary := ⟨⟨type, .str "", some [.null]⟩, [("b", "b.css"), ("a", "")],
      ["a.x", "a.x", "b.y"], [1], [[0, 0, 2]]⟩
    have hdescriptor : s.template.WrittenAs
        [("data", .arr [.null]), ("identifier", .str ""), ("type", .str type)] :=
      ⟨rfl, ⟨"", rfl, rfl⟩, .inr ⟨[.null], rfl, rfl⟩⟩
    have hnames : s.stylesFound.Pairwise (· ≤ ·) :=
      (by decide : ["a.x", "a.x", "b.y"].Pairwise (· ≤ ·))
    have hwell : s.WellFormed := ⟨⟨"", rfl⟩, hnames, by simp [s], by simp [s], by simp [s],
      by simp [s], by simp [s]⟩
    exact ⟨s, ⟨⟨⟨_, rfl, hdescriptor⟩, rfl, rfl, rfl, rfl⟩, hwell⟩, rfl⟩
  constructor
  · obtain ⟨hok, -, -, -, hrecord⟩ :=
      read_ofJson_iff .initial (json TemplateKind.base.typeName)
    obtain ⟨s, hs, htype⟩ := hshape TemplateKind.base.typeName
    obtain ⟨r, hr⟩ := hok.2 ⟨s, hs, htype ▸ List.mem_cons_self⟩
    exact ⟨r, hr, (hrecord r hr).2⟩
  · obtain ⟨s, hs, htype⟩ := hshape "Page"
    exact ((read_ofJson_iff .initial (json "Page")).2.1 "Page").2 ⟨⟨s, hs, htype⟩, by decide⟩

end Record

end StyleUsage
