import StyleUsage.Proofs.Collection.Traversal
import StyleUsage.Settings.Basic
import Mathlib.Data.List.TakeWhile

/-!
# What a table of settings says

Settings are read from a table exactly if each of its fields is absent or of the right kind
(`ofTable_ok_iff`): the form is one of the names of forms, up to blanks at its ends and case, the
indentation is a number that is not negative, and every entry of the template types has a target
with a colon. There is one reference for each entry, in order (`readEntries_ok_iff`). Which table of
a document holds the settings depends on the name of the file (`settingsTable_ok_iff`).
-/

namespace StyleUsage

namespace Text

theorem mem_stripEnd {c : Char} (hc : isBlank c = false) {cs : List Char} (h : c ∈ cs) :
    c ∈ stripEnd cs := by
  have hdrop : ∀ l : List Char, c ∈ l → c ∈ l.dropWhile isBlank := by
    intro l hl
    rw [← List.takeWhile_append_dropWhile (p := isBlank) (l := l), List.mem_append] at hl
    refine hl.resolve_left fun htake => ?_
    rw [List.mem_takeWhile_imp htake] at hc
    cases hc
  exact List.mem_reverse.2 (hdrop _ (List.mem_reverse.2 h))

theorem mem_stripChars {c : Char} (hc : isBlank c = false) {cs : List Char} (h : c ∈ cs) :
    c ∈ stripChars cs := by
  refine mem_stripEnd hc ?_
  rw [← List.takeWhile_append_dropWhile (p := isBlank) (l := cs), List.mem_append] at h
  refine h.resolve_left fun htake => ?_
  rw [List.mem_takeWhile_imp htake] at hc
  cases hc

end Text

namespace Settings

/-! ## Entries of the template types -/

/-- What an entry of the template types asks for. -/
inductive AsksFor : Toml → TemplateTypeRef → Prop where
  /-- A text is the target. -/
  | target {s : String} (hcolon : ':' ∈ s.toList) : AsksFor (.str s) ⟨Text.strip s, none⟩
  /-- A table has the target, and may have a type name. -/
  | table {fields : List (String × Toml)} {s : String} {typeName : Option String}
      (hconstructor : Entries.get? fields "constructor" = some (.str s))
      (hcolon : ':' ∈ s.toList)
      (htype : Entries.get? fields "type" = typeName.map .str) :
      AsksFor (.table fields) ⟨Text.strip s, typeName⟩

theorem AsksFor.colon_mem {entry : Toml} {ref : TemplateTypeRef} (h : AsksFor entry ref) :
    ':' ∈ ref.target.toList := by
  have hstrip : ∀ s : String, ':' ∈ s.toList → ':' ∈ (Text.strip s).toList := by
    intro s hs
    unfold Text.strip
    rw [String.toList_ofList]
    exact Text.mem_stripChars (by decide) hs
  cases h with
  | target hcolon => exact hstrip _ hcolon
  | table _ hcolon _ => exact hstrip _ hcolon

theorem readTarget_ok_iff {index : Nat} {v : Option Toml} {target : String} :
    readTarget index v = .ok target ↔
      ∃ s, v = some (.str s) ∧ ':' ∈ s.toList ∧ target = Text.strip s := by
  unfold readTarget
  split
  · next s =>
    by_cases hcolon : ':' ∈ s.toList
    · rw [if_pos (List.contains_iff_mem.2 hcolon)]
      simp [hcolon, eq_comm]
    · rw [if_neg (List.contains_iff_mem.not.2 hcolon)]
      simp [hcolon]
  · next hother =>
    simp only [reduceCtorEq, false_iff]
    rintro ⟨s, rfl, -⟩
    exact hother s rfl

theorem readEntry_ok_iff {index : Nat} {entry : Toml} {ref : TemplateTypeRef} :
    readEntry index entry = .ok ref ↔ AsksFor entry ref := by
  constructor
  · intro h
    unfold readEntry at h
    split at h
    · obtain ⟨target, htarget, rfl⟩ := map_eq_ok_iff.1 h
      obtain ⟨s, heq, hcolon, rfl⟩ := readTarget_ok_iff.1 htarget
      cases heq
      exact .target hcolon
    · next fields =>
      split at h
      · next htype =>
        obtain ⟨target, htarget, rfl⟩ := map_eq_ok_iff.1 h
        obtain ⟨s, hconstructor, hcolon, rfl⟩ := readTarget_ok_iff.1 htarget
        exact .table hconstructor hcolon htype
      · next name htype =>
        obtain ⟨target, htarget, rfl⟩ := map_eq_ok_iff.1 h
        obtain ⟨s, hconstructor, hcolon, rfl⟩ := readTarget_ok_iff.1 htarget
        have htype' : Entries.get? fields "type" = (some name).map .str := htype
        exact .table hconstructor hcolon htype'
      · cases h
    · cases h
  · rintro (⟨hcolon⟩ | @⟨fields, s, typeName, hconstructor, hcolon, htype⟩)
    · unfold readEntry
      rw [readTarget_ok_iff.2 ⟨_, rfl, hcolon, rfl⟩]
      rfl
    · have htarget : readTarget index (Entries.get? fields "constructor") = .ok (Text.strip s) :=
        readTarget_ok_iff.2 ⟨s, hconstructor, hcolon, rfl⟩
      unfold readEntry
      dsimp only
      rw [htype, htarget]
      cases typeName <;> rfl

theorem readEntries_ok_iff {items : List Toml} {index : Nat} {refs : List TemplateTypeRef} :
    readEntries index items = .ok refs ↔ List.Forall₂ AsksFor items refs := by
  induction items generalizing index refs with
  | nil => simp [readEntries, eq_comm]
  | cons entry items ih =>
    unfold readEntries
    simp only [bind_eq_ok_iff, readEntry_ok_iff, ih, Except.ok.injEq, List.forall₂_cons_left_iff]
    constructor
    · rintro ⟨ref, hentry, refs, hitems, rfl⟩
      exact ⟨ref, refs, hentry, hitems, rfl⟩
    · rintro ⟨ref, refs, hentry, hitems, rfl⟩
      exact ⟨ref, hentry, refs, hitems, rfl⟩

/-! ## Tables of settings -/

/-- The form that a setting names. -/
inductive NamesForm : Option Toml → OutputForm → Prop where
  | absent : NamesForm none .json
  | named {s : String} {form : OutputForm}
      (hname : (Text.stripChars s.toList).map Char.toLower = form.name.toList) :
      NamesForm (some (.str s)) form

/-- The indentation that a setting asks for. -/
inductive GivesIndent : Option Toml → Nat → Prop where
  | absent : GivesIndent none 2
  | number (n : Nat) : GivesIndent (some (.int (.ofNat n))) n

/-- The entries that a setting lists. -/
inductive ListsEntries : Option Toml → List Toml → Prop where
  | absent : ListsEntries none []
  | array (items : List Toml) : ListsEntries (some (.array items)) items

/-- The fields of a table say the settings. -/
structure SaidBy (fields : List (String × Toml)) (s : Settings) : Prop where
  entries : ∃ items, ListsEntries (Entries.get? fields "template_types") items ∧
    List.Forall₂ AsksFor items s.templateTypes
  form : NamesForm (Entries.get? fields "output") s.form
  indent : GivesIndent (Entries.get? fields "indent") s.indent

theorem SaidBy.colon_mem {fields : List (String × Toml)} {s : Settings} (h : SaidBy fields s) :
    ∀ ref ∈ s.templateTypes, ':' ∈ ref.target.toList := by
  obtain ⟨items, -, hentries⟩ := h.entries
  intro ref href
  obtain ⟨entry, -, hentry⟩ := exists_of_mem_right hentries href
  exact hentry.colon_mem

theorem ofName?_eq_some_iff {name : String} {form : OutputForm} :
    OutputForm.ofName? name = some form ↔ name = form.name := by
  constructor
  · intro h
    unfold OutputForm.ofName? at h
    have hname := List.find?_some h
    exact (beq_iff_eq.1 hname).symm
  · rintro rfl
    cases form <;> rfl

theorem readForm_ok_iff {setting : Option Toml} {form : OutputForm} :
    readForm setting = .ok form ↔ NamesForm setting form := by
  constructor
  · intro h
    unfold readForm at h
    split at h
    · cases h
      exact .absent
    · dsimp only at h
      split at h
      · next hname =>
        cases h
        refine .named ?_
        rw [← ofName?_eq_some_iff.1 hname, String.toList_ofList]
      · cases h
    · cases h
  · rintro (_ | ⟨hname⟩)
    · rfl
    · unfold readForm
      dsimp only
      rw [hname, String.ofList_toList, ofName?_eq_some_iff.2 rfl]

theorem readIndent_ok_iff {setting : Option Toml} {n : Nat} :
    readIndent setting = .ok n ↔ GivesIndent setting n := by
  constructor
  · intro h
    unfold readIndent at h
    split at h
    · cases h
      exact .absent
    · cases h
      exact .number _
    · cases h
  · rintro (_ | _) <;> rfl

/-- The entries that a setting lists, or why it lists none. -/
def readList : Option Toml → Except SettingsError (List Toml)
  | none => .ok []
  | some (.array items) => .ok items
  | some _ => .error .typesNotAList

theorem readList_ok_iff {setting : Option Toml} {items : List Toml} :
    readList setting = .ok items ↔ ListsEntries setting items := by
  constructor
  · intro h
    unfold readList at h
    split at h
    · cases h
      exact .absent
    · cases h
      exact .array _
    · cases h
  · rintro (_ | _) <;> rfl

theorem ofTable_eq (path : Path) (fields : List (String × Toml)) :
    ofTable path fields = (do
      let items ← readList (Entries.get? fields "template_types")
      let form ← readForm (Entries.get? fields "output")
      let indent ← readIndent (Entries.get? fields "indent")
      let refs ← readEntries 0 items
      .ok ⟨refs, form, indent, some path⟩) := by
  unfold ofTable
  cases Entries.get? fields "template_types" with
  | none => rfl
  | some v => cases v <;> rfl

theorem ofTable_ok_iff {path : Path} {fields : List (String × Toml)} {s : Settings} :
    ofTable path fields = .ok s ↔ SaidBy fields s ∧ s.path = some path := by
  simp only [ofTable_eq, bind_eq_ok_iff, readList_ok_iff, readForm_ok_iff, readIndent_ok_iff,
    readEntries_ok_iff, Except.ok.injEq]
  constructor
  · rintro ⟨items, hitems, form, hform, indent, hindent, refs, hrefs, rfl⟩
    exact ⟨⟨⟨items, hitems, hrefs⟩, hform, hindent⟩, rfl⟩
  · rintro ⟨⟨⟨items, hitems, hrefs⟩, hform, hindent⟩, hpath⟩
    exact ⟨items, hitems, s.form, hform, s.indent, hindent, s.templateTypes, hrefs,
      by rw [← hpath]⟩

/-! ## The table among those of a document -/

/-- The fields of the settings in a document. A file of their own holds nothing else; in a shared
file they are a table among the tools, and empty if it is absent. -/
inductive TableOf (path : Path) : Toml → List (String × Toml) → Prop where
  | own {fields : List (String × Toml)} (hname : path.name ≠ sharedName) :
      TableOf path (.table fields) fields
  | noTools {document : Toml} (hname : path.name = sharedName)
      (htool : document.field? "tool" = none) : TableOf path document []
  | shared {document : Toml} {tools fields : List (String × Toml)} (hname : path.name = sharedName)
      (htool : document.field? "tool" = some (.table tools))
      (htable : Entries.get? tools "blockref" = some (.table fields)) : TableOf path document fields
  | noTable {document : Toml} {tools : List (String × Toml)} (hname : path.name = sharedName)
      (htool : document.field? "tool" = some (.table tools))
      (htable : Entries.get? tools "blockref" = none) : TableOf path document []

theorem settingsTable_ok_iff {path : Path} {document : Toml} {fields : List (String × Toml)} :
    settingsTable path document = .ok (.table fields) ↔ TableOf path document fields := by
  unfold settingsTable
  constructor
  · intro h
    split at h
    · next hname =>
      split at h
      · next htool =>
        cases h
        exact .noTools hname htool
      · next tools htool =>
        cases htable : Entries.get? tools "blockref" with
        | none =>
          rw [htable] at h
          cases h
          exact .noTable hname htool htable
        | some v =>
          rw [htable] at h
          cases h
          exact .shared hname htool htable
      · cases h
    · next hname =>
      cases h
      exact .own hname
  · rintro (hname | ⟨hname, htool⟩ | ⟨hname, htool, htable⟩ | ⟨hname, htool, htable⟩)
    · rw [if_neg hname]
    · rw [if_pos hname, htool]
    · rw [if_pos hname, htool]
      dsimp only
      rw [htable]
      rfl
    · rw [if_pos hname, htool]
      dsimp only
      rw [htable]
      rfl

end Settings

end StyleUsage
