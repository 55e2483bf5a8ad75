import StyleUsage.Proofs.Datum.Uses
import StyleUsage.Proofs.Walk.Respelled

/-!
# Reading walk data with uses that may fail

Walk data may have values of any kind anywhere. Here it is read with checks and uses in turn, where
a use of a value of another kind, and of a block, a dependency or a style that is not there, stops
the reader (`tryRead`). The blocks are gathered in three tables, and the dependencies are looked up
in the end (`Gathered`). No use fails (`sameOutcome_read`), so walk data is read exactly if it obeys
the grammar, and refused by a check if not (`read_iff_isScript`).
-/

namespace StyleUsage

namespace WalkScript

open Datum

/-! ## Reading with uses that may fail -/

def tryTexts (place : ListPlace) (d : Datum) : Except (UseError WalkError) (List String) :=
  if d.isNull then .ok []
  else do
    check d.items?.isSome (.notTexts place)
    let items ← useAs items? d
    check (items.all fun item => item.text?.isSome) (.notTexts place)
    let texts ← items.mapM (useAs text?)
    .ok texts

/-- Use a value as a block. A source stands for a mapping that has it. -/
def tryBlock (name : String) (d : Datum) :
    Except (UseError WalkError) (BlockDeclaration × Bool) := do
  let d := if d.text?.isSome then .ofFields [("source", d)] else d
  check d.entries?.isSome (.noSource name)
  let entries ← useAs entries? d
  check (lookup entries "source").text?.isSome (.noSource name)
  let source ← useKey entries "source"
  let source ← useAs text? source
  let styles ← tryTexts (.styles name) (lookup entries "styles")
  let dependsOn ← tryTexts (.dependencies name) (lookup entries "depends_on")
  let bind := (lookup? entries "bind").getD (.bool true)
  check bind.bool?.isSome (.malformedBind name)
  let bind ← useAs bool? bind
  .ok (⟨source, OrderedSet.ofList styles, dependsOn⟩, bind)

/-- The blocks, their dependencies and the bound names, as they are gathered from the entries. -/
structure Gathered where
  /-- The blocks, so far without dependencies. -/
  blocks : Entries String BlockDeclaration
  dependsOn : Entries String (List String)
  bound : List String

/-- A block without its dependencies. -/
def bare (block : BlockDeclaration) : BlockDeclaration := { block with dependsOn := [] }

def Gathered.takeUp (g : Gathered) (entry : Datum × Datum) :
    Except (UseError WalkError) Gathered := do
  let name := entry.1.display
  let (block, bind) ← tryBlock name entry.2
  .ok ⟨g.blocks.put name (bare block), g.dependsOn.put name block.dependsOn,
    if bind then g.bound ++ [name] else g.bound⟩

def linkOne (name : String) (t : Entries String BlockDeclaration) (dependency : String) :
    Except (UseError WalkError) (Entries String BlockDeclaration) := do
  check (t.has dependency) (.unknownDependency name dependency)
  let block ← useName t name
  let _ ← useName t dependency
  .ok (t.put name { block with dependsOn := block.dependsOn ++ [dependency] })

/-- Add its dependencies to a block. -/
def link (t : Entries String BlockDeclaration) (p : String × List String) :
    Except (UseError WalkError) (Entries String BlockDeclaration) :=
  p.2.foldlM (linkOne p.1) t

def tryBlocks (d : Datum) : Except (UseError WalkError) Blocks :=
  if d.isNull then .ok ⟨[], []⟩
  else do
    check d.entries?.isSome .blocksNotAMapping
    let entries ← useAs entries? d
    let g ← entries.foldlM Gathered.takeUp ⟨[], [], []⟩
    let declared ← g.dependsOn.foldlM link g.blocks
    .ok ⟨declared, g.bound⟩

def tryTemplate (identifier : String) (d : Datum) : Except (UseError WalkError) Descriptor :=
  if d.isNull then .ok ⟨TemplateKind.base.typeName, .str identifier, none⟩
  else do
    check d.entries?.isSome .templateNotAMapping
    let entries ← useAs entries? d
    let type := textOr TemplateKind.base.typeName (lookup entries "type")
    let identifier := Datum.str (textOr identifier (lookup entries "identifier"))
    if (lookup entries "data").isNull then .ok ⟨type, identifier, none⟩
    else do
      let data ← useKey entries "data"
      check data.items?.isSome .payloadNotAList
      let items ← useAs items? data
      .ok ⟨type, identifier, some items⟩

/-- Use a value as the element with number `n`. -/
def tryElement (n : Nat) (d : Datum) : Except (UseError WalkError) WalkElement :=
  if d.isNull then .ok ⟨[], []⟩
  else if d.items?.isSome then do
    let styles ← tryTexts (.element n) d
    .ok ⟨styles, []⟩
  else do
    check d.entries?.isSome (.malformedElement n)
    let entries ← useAs entries? d
    let styles ← tryTexts (.elementStyles n) (lookup entries "styles")
    let dynamic ← tryTexts (.elementDynamic n) (lookup entries "dynamic")
    .ok ⟨styles, dynamic⟩

/-- Use values as the elements from the one with number `n` on. -/
def tryElementsFrom : Nat → List Datum → Except (UseError WalkError) (List WalkElement)
  | _, [] => .ok []
  | n, d :: rest => do
    let element ← tryElement n d
    let others ← tryElementsFrom (n + 1) rest
    .ok (element :: others)

def tryElements (d : Datum) : Except (UseError WalkError) (List WalkElement) :=
  if d.isNull then .ok []
  else do
    check d.items?.isSome .elementsNotAList
    let items ← useAs items? d
    tryElementsFrom 0 items

def useStyle (block : BlockDeclaration) (fragment : String) : Except (UseError WalkError) Unit :=
  if fragment ∈ block.styles then .ok () else .error (.missingKey fragment)

def tryResolve (s : WalkScript) (reference : String) : Except (UseError WalkError) Unit :=
  match splitReference (Text.stripChars reference.toList) with
  | none => .error (.refused (.invalidReference reference))
  | some (name, fragment) => do
    let name := String.ofList name
    let fragment := String.ofList fragment
    check (s.blocks.has name) (.unknownAlias reference)
    let block ← useName s.blocks name
    check (fragment ∈ block.styles) (.unknownStyle name fragment)
    useStyle block fragment

/-- Use a value as a mapping, or as an empty one if it is null. -/
def tryFields (d : Datum) : Except (UseError WalkError) (List (Datum × Datum)) :=
  if d.isNull then .ok []
  else do
    check d.entries?.isSome .notAMapping
    let entries ← useAs entries? d
    .ok entries

/-- Read a walk script. Nothing is known of a value unless it was checked, so every use may fail. -/
def tryRead (identifier : String) (d : Datum) : Except (UseError WalkError) WalkScript := do
  let entries ← tryFields d
  let blocks ← tryBlocks (lookup entries "blocks")
  let template ← tryTemplate identifier (lookup entries "template")
  let elements ← tryElements (lookup entries "elements")
  let script : WalkScript := ⟨template, blocks.declared, blocks.bound, elements⟩
  script.references.forM (tryResolve script)
  .ok script

/-! ## No use fails -/

theorem readTexts_eq (place : ListPlace) (d : Datum) : readTexts place d =
    match d.listed?.bind fun items => items.mapM text? with
    | some texts => .ok texts
    | none => .error (.notTexts place) := by
  unfold readTexts listed?
  cases d.opened <;> rfl

theorem sameOutcome_texts (place : ListPlace) (d : Datum) :
    SameOutcome .refused Eq (readTexts place d) (tryTexts place d) := by
  rw [readTexts_eq]
  unfold tryTexts
  refine .orNull (fun hd => hd ▸ .ok rfl) fun hnull => ?_
  rw [listed?_of_not_null hnull]
  refine .useAs rfl (fun items hitems => ?_) fun hnone => by rw [hnone]; rfl
  rw [hitems, Option.bind_some]
  refine .useAll rfl (fun texts htexts => ?_) fun hnone => by rw [hnone]
  rw [htexts]
  exact .ok rfl

theorem readBind_eq (name : String) (entries : List (Datum × Datum)) : readBind name entries =
    match ((lookup? entries "bind").getD (.bool true)).bool? with
    | some b => .ok b
    | none => .error (.malformedBind name) := by
  unfold readBind
  cases lookup? entries "bind" with
  | none => rfl
  | some d => cases d <;> rfl

theorem sameOutcome_block (name : String) (d : Datum) :
    SameOutcome .refused Eq (readBlock name d) (tryBlock name d) := by
  unfold tryBlock
  cases htext : d.text? with
  | some s =>
    rw [text?_eq_some_iff.1 htext]
    exact .ok rfl
  | none =>
    simp only [Option.isSome_none, Bool.false_eq_true, if_false]
    unfold readBlock
    refine .useAs rfl (fun entries hentries => ?_) fun hnone => ?_
    · obtain ⟨label, hd⟩ := entries?_eq_some_iff.1 hentries
      rw [hd]
      dsimp only
      refine .check rfl (fun h => ?_) fun h => ?_
      · obtain ⟨source, hsource⟩ := Option.isSome_iff_exists.1 h
        have hsource' := text?_eq_some_iff.1 hsource
        rw [useKey_bind (lookup_eq_str_iff.1 hsource'), hsource']
        refine (sameOutcome_texts (.styles name) _).bind ?_
        rintro styles _ rfl
        refine (sameOutcome_texts (.dependencies name) _).bind ?_
        rintro dependsOn _ rfl
        refine .useAs rfl (fun b hb => ?_) fun hnone => ?_
        · rw [readBind_eq, hb]
          exact .ok rfl
        · rw [readBind_eq, hnone]
          rfl
      · have hnone : (lookup entries "source").text? = none := by simpa using h
        split
        · next source hsource =>
          rw [hsource] at hnone
          cases hnone
        · rfl
    · split
      · next s hd =>
        rw [opened_eq_str_iff.1 hd] at htext
        cases htext
      · next label entries hd =>
        rw [entries?_eq_some_iff.2 ⟨label, hd⟩] at hnone
        cases hnone
      · rfl

/-! ## Blocks in three tables -/

/-- Three tables hold the blocks. -/
structure Gathers (b : Blocks) (g : Gathered) : Prop where
  nodup : (Entries.keys b.declared).Nodup
  blocks : g.blocks = Entries.mapValues bare b.declared
  dependsOn : g.dependsOn = Entries.mapValues BlockDeclaration.dependsOn b.declared
  bound : g.bound = b.bound

theorem Gathers.takeUp {b : Blocks} {g : Gathered} (h : Gathers b g) (entry : Datum × Datum) :
    SameOutcome .refused Gathers (b.takeUp entry) (g.takeUp entry) := by
  unfold Blocks.takeUp Gathered.takeUp
  refine (sameOutcome_block entry.1.display entry.2).bind ?_
  rintro ⟨block, bind⟩ _ rfl
  refine .ok ⟨Entries.nodup_keys_put h.nodup _ _, ?_, ?_, ?_⟩
  · rw [Entries.mapValues_put, h.blocks]
  · rw [Entries.mapValues_put, h.dependsOn]
  · rw [h.bound]

def unknown? (names : List String) (name dependency : String) : Option WalkError :=
  if dependency ∈ names then none else some (.unknownDependency name dependency)

section Link

variable {before after : Entries String BlockDeclaration} {name : String} {block : BlockDeclaration}

theorem linkOne_eq (hname : name ∉ Entries.keys before) (dependency : String) :
    linkOne name (before ++ (name, block) :: after) dependency =
      match unknown? (Entries.keys before ++ name :: Entries.keys after) name dependency with
      | some e => .error (.refused e)
      | none => .ok (before ++
          (name, { block with dependsOn := block.dependsOn ++ [dependency] }) :: after) := by
  rw [← Entries.keys_append_cons before after name block]
  unfold linkOne check unknown?
  by_cases h : dependency ∈ Entries.keys (before ++ (name, block) :: after)
  · obtain ⟨block', hblock'⟩ := Entries.mem_keys_iff.1 h
    rw [if_pos (Entries.has_iff.2 h), if_pos h, useName_eq_ok hblock',
      useName_eq_ok (Entries.get?_middle hname block)]
    show Except.ok (Entries.put _ name _) = _
    rw [Entries.put_middle hname]
  · rw [if_neg (Entries.has_iff.not.2 h), if_neg h]
    rfl

theorem foldlM_linkOne (hname : name ∉ Entries.keys before) (dependencies : List String) :
    dependencies.foldlM (linkOne name) (before ++ (name, block) :: after) =
      match dependencies.findSome?
        (unknown? (Entries.keys before ++ name :: Entries.keys after) name) with
      | some e => .error (.refused e)
      | none => .ok (before ++
          (name, { block with dependsOn := block.dependsOn ++ dependencies }) :: after) := by
  induction dependencies generalizing block with
  | nil =>
    rw [List.append_nil]
    rfl
  | cons dependency dependencies ih =>
    rw [List.foldlM_cons, linkOne_eq hname, List.findSome?_cons]
    cases unknown? (Entries.keys before ++ name :: Entries.keys after) name dependency with
    | some e => rfl
    | none =>
      show dependencies.foldlM (linkOne name) _ = _
      rw [ih, List.append_assoc]
      rfl

theorem foldlM_link (h : (Entries.keys (before ++ after)).Nodup) :
    (Entries.mapValues BlockDeclaration.dependsOn after).foldlM link
        (before ++ Entries.mapValues bare after) =
      match after.findSome? (fun p => p.2.dependsOn.findSome?
        (unknown? (Entries.keys (before ++ after)) p.1)) with
      | some e => .error (.refused e)
      | none => .ok (before ++ after) := by
  -- The blocks in `before` have their dependencies already, those in `after` have none yet.
  induction after generalizing before with
  | nil =>
    rfl
  | cons p after ih =>
    obtain ⟨name, block⟩ := p
    have hname : name ∉ Entries.keys before := Entries.not_mem_keys_of_nodup h
    have hmove : ∀ t : Entries String BlockDeclaration,
        before ++ (name, block) :: t = (before ++ [(name, block)]) ++ t := by
      intro t
      rw [List.append_assoc, List.singleton_append]
    have hlink : block.dependsOn.foldlM (linkOne name)
        (before ++ (name, bare block) :: Entries.mapValues bare after) = _ :=
      foldlM_linkOne hname block.dependsOn
    rw [Entries.keys_mapValues, ← Entries.keys_append_cons before after name block] at hlink
    show (block.dependsOn.foldlM (linkOne name)
        (before ++ (name, bare block) :: Entries.mapValues bare after) >>= fun t =>
      (Entries.mapValues _ after).foldlM link t) = _
    rw [hlink, List.findSome?_cons]
    cases block.dependsOn.findSome?
        (unknown? (Entries.keys (before ++ (name, block) :: after)) name) with
    | some e => rfl
    | none =>
      show (Entries.mapValues _ after).foldlM link
        (before ++ (name, block) :: Entries.mapValues bare after) = _
      rw [hmove] at h
      rw [hmove, ih h, ← hmove]

end Link

theorem sameOutcome_blocks (d : Datum) :
    SameOutcome .refused Eq (readBlocks d) (tryBlocks d) := by
  rw [readBlocks_eq]
  unfold tryBlocks
  refine .orNull (fun hd => hd ▸ .ok rfl) fun hnull => ?_
  rw [fields?_of_not_null hnull]
  refine .useAs rfl (fun entries hentries => ?_) fun hnone => by rw [hnone]
  rw [hentries]
  dsimp only
  have hempty : Gathers ⟨[], []⟩ ⟨[], [], []⟩ := ⟨List.nodup_nil, rfl, rfl, rfl⟩
  refine (SameOutcome.foldlM (fun entry _ b g h => h.takeUp entry) hempty).bind fun b g h => ?_
  have hnodup : (Entries.keys ([] ++ b.declared)).Nodup := h.nodup
  have hlink := foldlM_link hnodup
  have hunknown : b.unknownDependency? = b.declared.findSome? (fun p =>
      p.2.dependsOn.findSome? (unknown? (Entries.keys b.declared) p.1)) := by
    unfold Blocks.unknownDependency? unknown?
    simp only [Entries.has_iff]
  rw [h.dependsOn, h.blocks, h.bound]
  rw [List.nil_append, List.nil_append, ← hunknown] at hlink
  rw [hlink]
  unfold Blocks.checked
  cases b.unknownDependency? with
  | some e => exact .error e
  | none => exact .ok rfl

/-! ## Template and elements -/

theorem lookup?_of_not_null {entries : List (Datum × Datum)} {key : String}
    (h : (lookup entries key).isNull = false) :
    lookup? entries key = some (lookup entries key) := by
  unfold lookup at h ⊢
  cases hd : lookup? entries key with
  | none =>
    rw [hd] at h
    cases h
  | some d => rfl

theorem sameOutcome_template (identifier : String) (d : Datum) :
    SameOutcome .refused Eq (readTemplate identifier d) (tryTemplate identifier d) := by
  rw [readTemplate_eq]
  unfold tryTemplate
  refine .orNull (fun hd => hd ▸ .ok rfl) fun hnull => ?_
  rw [fields?_of_not_null hnull]
  refine .useAs rfl (fun entries hentries => ?_) fun hnone => by rw [hnone]
  rw [hentries]
  unfold readTemplateEntries
  dsimp only
  refine .orNull (fun hdata => ?_) fun hdata => ?_
  · rw [hdata]
    exact .ok rfl
  · rw [if_neg (by simp [hdata]), useKey_bind (lookup?_of_not_null hdata)]
    refine .useAs rfl (fun items hitems => ?_) fun hnone => by rw [hnone]
    rw [hitems]
    exact .ok rfl

theorem sameOutcome_element (n : Nat) (d : Datum) :
    SameOutcome .refused Eq (readElement n d) (tryElement n d) := by
  unfold tryElement
  refine .orNull (fun hd => hd ▸ .ok rfl) fun hnull => ?_
  unfold readElement
  by_cases hlist : d.items?.isSome = true
  · obtain ⟨items, hitems⟩ := Option.isSome_iff_exists.1 hlist
    obtain ⟨label, hd⟩ := items?_eq_some_iff.1 hitems
    rw [if_pos hlist, hd]
    refine (sameOutcome_texts (.element n) d).bind ?_
    rintro styles _ rfl
    exact .ok rfl
  · rw [if_neg hlist]
    refine .useAs rfl (fun entries hentries => ?_) fun hnone => ?_
    · obtain ⟨label, hd⟩ := entries?_eq_some_iff.1 hentries
      rw [hd]
      refine (sameOutcome_texts (.elementStyles n) _).bind ?_
      rintro styles _ rfl
      refine (sameOutcome_texts (.elementDynamic n) _).bind ?_
      rintro dynamic _ rfl
      exact .ok rfl
    · split
      · next hd =>
        rw [opened_eq_null_iff.1 hd] at hnull
        cases hnull
      · next label items hd =>
        rw [items?_eq_some_iff.2 ⟨label, hd⟩] at hlist
        exact absurd rfl hlist
      · next label entries hd =>
        rw [entries?_eq_some_iff.2 ⟨label, hd⟩] at hnone
        cases hnone
      · rfl

theorem sameOutcome_elementsFrom : ∀ (n : Nat) (items : List Datum),
    SameOutcome .refused Eq (readElementsFrom n items) (tryElementsFrom n items)
  | _, [] => .ok rfl
  | n, d :: rest => by
    unfold readElementsFrom tryElementsFrom
    refine (sameOutcome_element n d).bind ?_
    rintro element _ rfl
    refine (sameOutcome_elementsFrom (n + 1) rest).bind ?_
    rintro others _ rfl
    exact .ok rfl

theorem readElements_eq (d : Datum) : readElements d =
    match d.listed? with
    | some items => readElementsFrom 0 items
    | none => .error .elementsNotAList := by
  unfold readElements listed?
  cases d.opened <;> rfl

theorem sameOutcome_elements (d : Datum) :
    SameOutcome .refused Eq (readElements d) (tryElements d) := by
  rw [readElements_eq]
  unfold tryElements
  refine .orNull (fun hd => hd ▸ .ok rfl) fun hnull => ?_
  rw [listed?_of_not_null hnull]
  refine .useAs rfl (fun items hitems => ?_) fun hnone => by rw [hnone]
  rw [hitems]
  exact sameOutcome_elementsFrom 0 items

/-! ## References -/

theorem sameOutcome_resolve (s : WalkScript) (reference : String) :
    SameOutcome .refused Eq ((s.resolve reference).map fun _ => ()) (tryResolve s reference) := by
  unfold resolve tryResolve
  cases splitReference (Text.stripChars reference.toList) with
  | none => exact .error _
  | some p =>
    obtain ⟨name, fragment⟩ := p
    dsimp only
    refine .check rfl (fun h => ?_) fun h => ?_
    · obtain ⟨block, hblock⟩ := Option.isSome_iff_exists.1 h
      rw [useName_bind hblock, hblock]
      dsimp only
      refine .check rfl (fun h => ?_) fun h => ?_
      · have hmem := of_decide_eq_true h
        unfold useStyle
        rw [if_pos hmem, if_pos hmem]
        exact .ok rfl
      · rw [if_neg (of_decide_eq_false h)]
        rfl
    · have hnone : Entries.get? s.blocks (String.ofList name) = none := by
        simpa [Entries.has] using h
      rw [hnone]
      rfl

theorem sameOutcome_fields (d : Datum) :
    SameOutcome .refused Eq
      (match d.fields? with
        | some entries => .ok entries
        | none => .error .notAMapping) (tryFields d) := by
  unfold tryFields
  refine .orNull (fun hd => hd ▸ .ok rfl) fun hnull => ?_
  rw [fields?_of_not_null hnull]
  refine .useAs rfl (fun entries hentries => ?_) fun hnone => by rw [hnone]
  rw [hentries]
  exact .ok rfl

/-- No use fails while walk data is read. -/
theorem sameOutcome_read (identifier : String) (d : Datum) :
    SameOutcome .refused Eq (read identifier d) (tryRead identifier d) := by
  have hread : read identifier d = (match d.fields? with
      | some entries => .ok entries
      | none => .error .notAMapping) >>= readEntries identifier := by
    rw [read_eq]
    cases d.fields? <;> rfl
  rw [hread]
  refine (sameOutcome_fields d).bind ?_
  rintro entries _ rfl
  refine (sameOutcome_blocks _).bind ?_
  rintro blocks _ rfl
  refine (sameOutcome_template identifier _).bind ?_
  rintro template _ rfl
  refine (sameOutcome_elements _).bind ?_
  rintro elements _ rfl
  refine (SameOutcome.forM fun r _ => sameOutcome_resolve _ r).bind fun _ _ _ => ?_
  exact .ok rfl

/-! ## Which data is read -/

/-- **Walk data is read exactly if it obeys the grammar.** Data that does not is refused by a check,
and nothing else fails. Data that is read is read as the same script in another spelling. -/
theorem read_iff_isScript (identifier : String) (d : Datum) :
    ((∃ s, read identifier d = .ok s) ↔ IsScript d) ∧
    ((∃ e, tryRead identifier d = .error (.refused e)) ↔ ¬ IsScript d) ∧
    tryRead identifier d = (read identifier d).mapError .refused ∧
    ∀ s, read identifier d = .ok s → ∀ d', Respelled d d' → read identifier d' = .ok s := by
  have htry := (sameOutcome_read identifier d).eq_mapError
  have hscript : (∃ s, read identifier d = .ok s) ↔ IsScript d := exists_read_iff
  refine ⟨hscript, ?_, htry, fun s hread d' h => read_of_respelled h hread⟩
  rw [← hscript, htry]
  cases read identifier d <;> simp [Except.mapError]

/-- A block that is a source, a block that says that it is bound, a template that is null, and
elements that are a list, null and a mapping with a null field; and all of it spelled out. -/
theorem read_iff_isScript_spelledOut :
    let styles : String × Datum := ("styles", .ofStrings ["b.x"])
    let block : List (String × Datum) := [("source", .str "b.css"), ("styles", .ofStrings [".x"]),
      ("depends_on", .ofStrings ["b", "a"])]
    let d : Datum := .ofFields [
      ("template", .null),
      ("blocks", .ofFields [("a", .str "a.css"),
        ("b", .ofFields (block ++ [("bind", .bool true)]))]),
      ("elements", .list none [styles.2, .null, .ofFields [styles, ("dynamic", .null)]])]
    let d' : Datum := .ofFields [
      ("blocks", .ofFields [("a", .ofFields [("source", .str "a.css")]), ("b", .ofFields block)]),
      ("elements", .list none [.ofFields [styles], .ofFields [], .ofFields [styles]])]
    IsScript d ∧ Respelled d d' ∧ ∃ s, read "page" d = .ok s ∧ read "page" d' = .ok s := by
  intro styles block d d'
  have hread : ∃ s, read "page" d = .ok s := ⟨_, rfl⟩
  have hrespelled : Respelled d d' := by
    refine ⟨⟨Option.some_ne_none _, Option.some_ne_none _, Option.some_ne_none _⟩, ?_,
      Option.some_ne_none _, fun key => rfl, ?_⟩
    · refine .cons ⟨rfl, .source "a.css"⟩
        (.cons ⟨rfl, .fields rfl rfl (fun key hkey => ?_) ?_⟩ .nil)
      · simp [block, lookup, lookup?, Ne.symm hkey]
      · exact .inr ⟨rfl, rfl⟩
    · refine .cons (.list rfl) (.cons .null (.cons (.fields rfl rfl fun key => ?_) .nil))
      have hnull : lookup [(.str "styles", styles.2), (.str "dynamic", .null)] "dynamic" = .null :=
        rfl
      exact lookup_without hnull key
  obtain ⟨hscript, -, -, hspelled⟩ := read_iff_isScript "page" d
  obtain ⟨s, hs⟩ := hread
  exact ⟨hscript.1 ⟨s, hs⟩, hrespelled, s, hs, hspelled s hs d' hrespelled⟩

end WalkScript

end StyleUsage
