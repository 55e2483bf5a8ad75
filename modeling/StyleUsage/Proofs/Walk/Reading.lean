import StyleUsage.Proofs.Collection.Entries
import StyleUsage.Proofs.Collection.Traversal
import StyleUsage.Walk.Reader

/-!
# What reading a walk script gives

Reading goes over the blocks, the template and the elements of the data. For each part there is a
lemma that says when it is read, and as what: texts (`readTexts_ok_iff`), a block
(`readBlock_cases`), the blocks (`readBlocks_ok_iff`), an element (`readElement_ok_iff`), the
elements (`readElements_ok_iff`) and the whole script (`read_ok_iff`).
-/

namespace StyleUsage

namespace Datum

/-- The entries of a mapping; null has none. -/
def fields? (d : Datum) : Option (List (Datum × Datum)) :=
  match d.opened with
  | .null => some []
  | .map _ entries => some entries
  | _ => none

/-- The items of a list; null has none. -/
def listed? (d : Datum) : Option (List Datum) :=
  match d.opened with
  | .null => some []
  | .list _ items => some items
  | _ => none

theorem mapM_text?_eq_some_iff {items : List Datum} {texts : List String} :
    items.mapM text? = some texts ↔ items = texts.map .str := by
  refine mapM_eq_some_iff fun d text => ?_
  cases d <;> simp [text?]

end Datum

namespace WalkScript

open Datum

/-! ## Texts -/

theorem readTexts_ok_iff {place : ListPlace} {d : Datum} {texts : List String} :
    readTexts place d = .ok texts ↔ d.listed? = some (texts.map .str) := by
  unfold readTexts listed?
  cases d.opened with
  | null => simp [eq_comm]
  | list label items =>
    dsimp only
    rw [Option.some_inj, ← mapM_text?_eq_some_iff]
    cases items.mapM text? <;> simp
  | _ => simp

/-! ## Blocks -/

/-- A block is read from the text of its source alone, or from a mapping. -/
theorem readBlock_cases {name : String} {d : Datum} {block : BlockDeclaration} {bind : Bool}
    (h : readBlock name d = .ok (block, bind)) :
    (∃ source, d.opened = .str source ∧ block = ⟨source, ∅, []⟩ ∧ bind = true) ∨
    (∃ label entries source styles dependsOn, d.opened = .map label entries ∧
      lookup entries "source" = .str source ∧
      (lookup entries "styles").listed? = some (styles.map .str) ∧
      (lookup entries "depends_on").listed? = some (dependsOn.map .str) ∧
      readBind name entries = .ok bind ∧ block = ⟨source, OrderedSet.ofList styles, dependsOn⟩) := by
  unfold readBlock at h
  split at h
  · next source hd =>
    cases h
    exact .inl ⟨source, hd, rfl, rfl⟩
  · next label entries hd =>
    split at h
    · next source hsource =>
      obtain ⟨styles, hstyles, h⟩ := bind_eq_ok_iff.1 h
      obtain ⟨dependsOn, hdependsOn, h⟩ := bind_eq_ok_iff.1 h
      obtain ⟨bind', hbind, h⟩ := bind_eq_ok_iff.1 h
      cases h
      exact .inr ⟨label, entries, source, styles, dependsOn, hd, hsource,
        readTexts_ok_iff.1 hstyles, readTexts_ok_iff.1 hdependsOn, hbind, rfl⟩
    · cases h
  · cases h

theorem readBlock_of_map {name : String} {d : Datum} {label : Option Nat}
    {entries : List (Datum × Datum)} {source : String} {styles dependsOn : List String} {bind : Bool}
    (hd : d.opened = .map label entries) (hsource : lookup entries "source" = .str source)
    (hstyles : (lookup entries "styles").listed? = some (styles.map .str))
    (hdependsOn : (lookup entries "depends_on").listed? = some (dependsOn.map .str))
    (hbind : readBind name entries = .ok bind) :
    readBlock name d = .ok (⟨source, OrderedSet.ofList styles, dependsOn⟩, bind) := by
  unfold readBlock
  rw [hd]
  dsimp only
  rw [hsource]
  dsimp only
  rw [readTexts_ok_iff.2 hstyles, readTexts_ok_iff.2 hdependsOn, hbind]
  rfl

/-- An entry of the blocks as it is read. -/
structure ReadEntry where
  name : String
  block : BlockDeclaration
  /-- Whether the template binds the block. -/
  bind : Bool

/-- What an entry of the blocks is read as; its key counts by its text. -/
def ReadsAs (entry : Datum × Datum) (r : ReadEntry) : Prop :=
  r.name = entry.1.display ∧ readBlock r.name entry.2 = .ok (r.block, r.bind)

namespace Blocks

/-- The blocks with further entries that were read one after another. -/
def takenUp (b : Blocks) (rs : List ReadEntry) : Blocks where
  declared := rs.foldl (fun t r => t.put r.name r.block) b.declared
  bound := b.bound ++ (rs.filter ReadEntry.bind).map ReadEntry.name

def DependenciesKnown (b : Blocks) : Prop :=
  ∀ p ∈ b.declared, ∀ dependency ∈ p.2.dependsOn, dependency ∈ Entries.keys b.declared

theorem takeUp_ok_iff {b b' : Blocks} {entry : Datum × Datum} :
    b.takeUp entry = .ok b' ↔ ∃ r, ReadsAs entry r ∧ b' = b.takenUp [r] := by
  have hone : ∀ r : ReadEntry, b.takenUp [r] = ⟨Entries.put b.declared r.name r.block,
      if r.bind then b.bound ++ [r.name] else b.bound⟩ := by
    intro r
    unfold takenUp
    cases h : r.bind <;> simp [h]
  unfold takeUp
  rw [bind_eq_ok_iff]
  constructor
  · rintro ⟨⟨block, bind⟩, hread, h⟩
    cases h
    exact ⟨⟨entry.1.display, block, bind⟩, ⟨rfl, hread⟩, (hone ⟨_, block, bind⟩).symm⟩
  · rintro ⟨r, ⟨hname, hread⟩, rfl⟩
    rw [hone, ← hname]
    exact ⟨_, hread, rfl⟩

theorem takenUp_cons (b : Blocks) (r : ReadEntry) (rs : List ReadEntry) :
    b.takenUp (r :: rs) = (b.takenUp [r]).takenUp rs := by
  unfold takenUp
  cases h : r.bind <;> simp [h]

theorem foldlM_takeUp_ok_iff {entries : List (Datum × Datum)} {b b' : Blocks} :
    entries.foldlM takeUp b = .ok b' ↔
      ∃ rs, List.Forall₂ ReadsAs entries rs ∧ b' = b.takenUp rs := by
  induction entries generalizing b with
  | nil =>
    simp only [List.foldlM_nil, List.forall₂_nil_left_iff, exists_eq_left]
    unfold takenUp
    simp [pure, Except.pure, eq_comm]
  | cons entry entries ih =>
    rw [List.foldlM_cons, bind_eq_ok_iff]
    constructor
    · rintro ⟨b₁, hfirst, hrest⟩
      obtain ⟨r, hr, rfl⟩ := takeUp_ok_iff.1 hfirst
      obtain ⟨rs, hrs, rfl⟩ := ih.1 hrest
      exact ⟨r :: rs, .cons hr hrs, (takenUp_cons b r rs).symm⟩
    · rintro ⟨rs', hrs', rfl⟩
      obtain ⟨r, rs, hr, hrs, rfl⟩ := List.forall₂_cons_left_iff.1 hrs'
      exact ⟨_, takeUp_ok_iff.2 ⟨r, hr, rfl⟩, ih.2 ⟨rs, hrs, takenUp_cons b r rs⟩⟩

/-- The blocks of entries that were read one after another: of two entries with one name the later
one counts, but both leave their mark among the bound names. -/
def ofEntries (rs : List ReadEntry) : Blocks where
  declared := Entries.ofPairs (rs.map fun r => (r.name, r.block))
  bound := (rs.filter ReadEntry.bind).map ReadEntry.name

theorem takenUp_nil (rs : List ReadEntry) : (⟨[], []⟩ : Blocks).takenUp rs = ofEntries rs := by
  unfold takenUp ofEntries Entries.ofPairs
  rw [List.foldl_map]
  rfl

theorem unknownDependency?_eq_none_iff {b : Blocks} :
    b.unknownDependency? = none ↔ b.DependenciesKnown := by
  unfold unknownDependency? DependenciesKnown
  rw [List.findSome?_eq_none_iff]
  refine forall₂_congr fun p _ => ?_
  rw [List.findSome?_eq_none_iff]
  refine forall₂_congr fun dependency _ => ?_
  rw [← Entries.has_iff]
  cases Entries.has b.declared dependency <;> simp

/-- The blocks, once their dependencies are looked up. -/
def checked (b : Blocks) : Except WalkError Blocks :=
  match b.unknownDependency? with
  | some e => .error e
  | none => .ok b

theorem checked_ok_iff {b b' : Blocks} : b.checked = .ok b' ↔ b = b' ∧ b.DependenciesKnown := by
  rw [← unknownDependency?_eq_none_iff]
  unfold checked
  cases b.unknownDependency? <;> simp

end Blocks

theorem readBlocks_eq (d : Datum) : readBlocks d =
    match d.fields? with
    | some entries => entries.foldlM Blocks.takeUp ⟨[], []⟩ >>= Blocks.checked
    | none => .error .blocksNotAMapping := by
  unfold readBlocks fields?
  cases d.opened <;> rfl

theorem readBlocks_ok_iff {d : Datum} {b : Blocks} : readBlocks d = .ok b ↔
    ∃ entries rs, d.fields? = some entries ∧ List.Forall₂ ReadsAs entries rs ∧
      b = .ofEntries rs ∧ b.DependenciesKnown := by
  rw [readBlocks_eq]
  cases d.fields? with
  | none => simp
  | some entries =>
    simp only [bind_eq_ok_iff, Blocks.foldlM_takeUp_ok_iff, Blocks.takenUp_nil,
      Blocks.checked_ok_iff, Option.some.injEq]
    constructor
    · rintro ⟨b, ⟨rs, hrs, hb⟩, rfl, hknown⟩
      exact ⟨entries, rs, rfl, hrs, hb, hknown⟩
    · rintro ⟨_, rs, rfl, hrs, hb, hknown⟩
      exact ⟨b, ⟨rs, hrs, hb⟩, rfl, hknown⟩

/-! ## Elements -/

/-- What an element is read as: its styles from null or a list, or its styles and its dynamic styles
from a mapping. -/
def ElementReadsAs (d : Datum) (e : WalkElement) : Prop :=
  (d.listed? = some (e.styles.map .str) ∧ e.dynamic = []) ∨
  (∃ label entries, d.opened = .map label entries ∧
    (lookup entries "styles").listed? = some (e.styles.map .str) ∧
    (lookup entries "dynamic").listed? = some (e.dynamic.map .str))

theorem readElement_ok_iff {n : Nat} {d : Datum} {e : WalkElement} :
    readElement n d = .ok e ↔ ElementReadsAs d e := by
  obtain ⟨styles, dynamic⟩ := e
  unfold ElementReadsAs readElement
  cases hd : d.opened with
  | null => simp [listed?, hd, eq_comm]
  | list label items =>
    simp only [bind_eq_ok_iff, readTexts_ok_iff]
    simp [eq_comm, and_comm]
  | map label entries =>
    simp only [bind_eq_ok_iff, readTexts_ok_iff]
    simp [listed?, hd, and_left_comm, and_assoc]
  | _ => simp [listed?, hd]

theorem readElementsFrom_ok_iff {items : List Datum} {n : Nat} {es : List WalkElement} :
    readElementsFrom n items = .ok es ↔ List.Forall₂ ElementReadsAs items es := by
  induction items generalizing n es with
  | nil => simp [readElementsFrom, eq_comm]
  | cons d items ih =>
    rw [readElementsFrom, List.forall₂_cons_left_iff]
    simp only [bind_eq_ok_iff, ih, readElement_ok_iff, Except.ok.injEq]
    constructor
    · rintro ⟨e, he, es, hes, rfl⟩
      exact ⟨e, es, he, hes, rfl⟩
    · rintro ⟨e, es, he, hes, rfl⟩
      exact ⟨e, he, es, hes, rfl⟩

theorem readElements_ok_iff {d : Datum} {es : List WalkElement} : readElements d = .ok es ↔
    ∃ items, d.listed? = some items ∧ List.Forall₂ ElementReadsAs items es := by
  unfold readElements listed?
  cases d.opened with
  | null => simp [eq_comm]
  | list label items => simp [readElementsFrom_ok_iff]
  | _ => simp

/-! ## The script -/

def readEntries (identifier : String) (entries : List (Datum × Datum)) :
    Except WalkError WalkScript := do
  let blocks ← readBlocks (lookup entries "blocks")
  let template ← readTemplate identifier (lookup entries "template")
  let elements ← readElements (lookup entries "elements")
  let script : WalkScript := ⟨template, blocks.declared, blocks.bound, elements⟩
  script.references.forM fun r => (script.resolve r).map fun _ => ()
  .ok script

theorem read_eq (identifier : String) (d : Datum) : read identifier d =
    match d.fields? with
    | some entries => readEntries identifier entries
    | none => .error .notAMapping := by
  unfold read fields?
  cases d.opened <;> rfl

/-- A script is read exactly if its blocks, its template and its elements are and every reference of
an element can be resolved. -/
theorem read_ok_iff {identifier : String} {d : Datum} {s : WalkScript} :
    read identifier d = .ok s ↔ ∃ entries, d.fields? = some entries ∧
      readBlocks (lookup entries "blocks") = .ok ⟨s.blocks, s.bound⟩ ∧
      readTemplate identifier (lookup entries "template") = .ok s.template ∧
      readElements (lookup entries "elements") = .ok s.elements ∧
      ∀ r ∈ s.references, ∃ x, s.resolve r = .ok x := by
  have hresolve : ∀ s : WalkScript,
      s.references.forM (fun r => (s.resolve r).map fun _ => ()) = .ok () ↔
        ∀ r ∈ s.references, ∃ x, s.resolve r = .ok x := by
    intro s
    rw [forM_eq_ok_iff]
    refine forall₂_congr fun r _ => ?_
    cases s.resolve r <;> simp [Except.map]
  rw [read_eq]
  cases d.fields? with
  | none => simp
  | some entries =>
    unfold readEntries
    simp only [bind_eq_ok_iff, Except.ok.injEq, Option.some.injEq]
    constructor
    · rintro ⟨blocks, hblocks, template, htemplate, elements, helements, ⟨⟩, hrefs, rfl⟩
      exact ⟨entries, rfl, hblocks, htemplate, helements, (hresolve _).1 hrefs⟩
    · rintro ⟨_, rfl, hblocks, htemplate, helements, hrefs⟩
      exact ⟨_, hblocks, _, htemplate, _, helements, (), (hresolve s).2 hrefs, rfl⟩

end WalkScript

end StyleUsage
