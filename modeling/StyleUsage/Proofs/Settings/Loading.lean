import StyleUsage.Proofs.Datum.Uses
import StyleUsage.Proofs.Settings.Table
import StyleUsage.Settings.Discovery

/-!
# Loading settings

Loading makes a check of its own on every value of a document, with one exception: what stands under
`tool` in a shared file is used as a table as it is. The bytes of the file are used as a text
without a check as well. Here the same checks are made once more, in their order, and every use of a
value as one of some kind may fail (`tryLoad`). A file is loaded exactly if it is TOML with a table
that says the settings (`load_ok_iff`), and a use fails exactly if a shared file has something else
than a table under `tool`, or if the bytes are not UTF-8 (`load_outcome`).
-/

namespace StyleUsage

namespace Toml

def fields? : Toml → Option (List (String × Toml))
  | .table fields => some fields
  | _ => none

def items? : Toml → Option (List Toml)
  | .array items => some items
  | _ => none

def text? : Toml → Option String
  | .str s => some s
  | _ => none

/-- The whole number that a value is. -/
def int? : Toml → Option Int
  | .int i => some i
  | _ => none

end Toml

namespace Settings

instance : Kinded Toml := ⟨kindName⟩

/-- Why loading stops. -/
abbrev LoadFault := UseError SettingsError

/-- What stops a loading whose uses may fail, given the cause. -/
def LoadFault.ofCause : SettingsError → LoadFault
  | .toolNotATable kind => .wrongKind kind
  | .notText fault => .notText fault
  | cause => .refused cause

theorem LoadFault.ofCause_eq_refused_iff {cause : SettingsError} :
    ofCause cause = .refused cause ↔ cause.escapes = false := by
  cases cause <;> simp [ofCause, SettingsError.escapes]

/-! ## Loading with uses that may fail -/

section Loading

open Toml

/-- The value that should be the table of the settings. What stands under `tool` is not checked. -/
def tryTable (path : Path) (document : Toml) : Except LoadFault Toml :=
  if path.name = sharedName then do
    let fields ← useAs fields? document
    let tools ← useAs fields? ((Entries.get? fields "tool").getD (.table []))
    .ok ((Entries.get? tools "blockref").getD (.table []))
  else .ok document

/-- Use a value as the indentation. -/
def tryIndent (v : Toml) : Except LoadFault Nat := do
  check v.int?.isSome .badIndent
  let i ← useAs int? v
  check (0 ≤ i) .badIndent
  .ok i.toNat

/-- Use a value as the target of an entry. -/
def tryTarget (index : Nat) (v : Toml) : Except LoadFault String := do
  check v.text?.isSome (.malformedTarget index)
  let s ← useAs text? v
  check (s.toList.contains ':') (.malformedTarget index)
  .ok (Text.strip s)

/-- Use a value, if there is one, as the type name of an entry. -/
def tryTypeName (index : Nat) : Option Toml → Except LoadFault (Option String)
  | none => .ok none
  | some v => do
    check v.text?.isSome (.typeNotAText index)
    let name ← useAs text? v
    .ok (some name)

/-- Use a value, if there is one, as the target of an entry with a type name. -/
def tryConstructor (index : Nat) (typeName : Option String) :
    Option Toml → Except LoadFault TemplateTypeRef
  | none => .error (.refused (.malformedTarget index))
  | some v => do
    let target ← tryTarget index v
    .ok ⟨target, typeName⟩

/-- Use a value as an entry of the template types. -/
def tryEntry (index : Nat) (v : Toml) : Except LoadFault TemplateTypeRef :=
  if v.text?.isSome then tryConstructor index none (some v)
  else do
    check v.fields?.isSome (.malformedEntry index)
    let fields ← useAs fields? v
    let typeName ← tryTypeName index (Entries.get? fields "type")
    tryConstructor index typeName (Entries.get? fields "constructor")

/-- Use values as the entries of the template types from a place on. -/
def tryEntries (index : Nat) : List Toml → Except LoadFault (List TemplateTypeRef)
  | [] => .ok []
  | entry :: rest => do
    let ref ← tryEntry index entry
    let refs ← tryEntries (index + 1) rest
    .ok (ref :: refs)

/-- Use a value as the table of the settings. The list of template types is checked first and
looked into last. -/
def trySettings (path : Path) (data : Toml) : Except LoadFault Settings := do
  check data.fields?.isSome (.notATable path)
  let fields ← useAs fields? data
  let entries := (Entries.get? fields "template_types").getD (.array [])
  check entries.items?.isSome .typesNotAList
  let form ← (readForm (Entries.get? fields "output")).mapError .refused
  let indent ← tryIndent ((Entries.get? fields "indent").getD (.int 2))
  let items ← useAs items? entries
  let refs ← tryEntries 0 items
  .ok ⟨refs, form, indent, some path⟩

/-- Use the bytes of a file as a text. Only that there are no bytes to read is caught. -/
def tryText (t : FileTree) (path : Path) : Except LoadFault String :=
  match t.read path with
  | .ok text => .ok text
  | .error (.notText fault) => .error (.notText fault)
  | .error cause => .error (.refused (.unreadable path (.unreadable cause)))

/-- Load settings. Nothing is known of a value unless it was checked, so every use may fail. -/
def tryLoad (t : FileTree) (path : Path) : Except LoadFault Settings := do
  let text ← tryText t path
  let document ← (Toml.read text).mapError fun e => .refused (.unreadable path (.malformed e))
  trySettings path (← tryTable path document)

end Loading

/-! ## Uses that a check covers -/

section Covered

open Toml

variable {α α' γ : Type} {R : α → α' → Prop} {x : Except SettingsError α} {cause : SettingsError}

/-- The same outcome, or one for the same cause. -/
abbrev SameLoad (R : α → α' → Prop) := SameOutcome LoadFault.ofCause R

theorem sameLoad_target (index : Nat) (v : Toml) :
    SameLoad Eq (readTarget index (some v)) (tryTarget index v) := by
  unfold tryTarget
  refine .useAs (by rfl) (fun s hs => ?_) fun hnone => ?_
  · cases v <;> cases hs
    refine .check (by rfl) (fun h => ?_) fun h => ?_
    · unfold readTarget
      dsimp only
      rw [if_pos h]
      exact .ok rfl
    · unfold readTarget
      dsimp only
      rw [h]
      rfl
  · cases v <;> first | rfl | cases hnone

theorem sameLoad_constructor (index : Nat) (v : Option Toml) (typeName : Option String) :
    SameLoad Eq ((readTarget index v).map fun target => (⟨target, typeName⟩ : TemplateTypeRef))
      (tryConstructor index typeName v) := by
  cases v with
  | none => exact .error (SettingsError.malformedTarget index)
  | some v =>
    refine (sameLoad_target index v).bind ?_
    rintro target _ rfl
    exact .ok rfl

theorem sameLoad_entry (index : Nat) (entry : Toml) :
    SameLoad Eq (readEntry index entry) (tryEntry index entry) := by
  cases entry with
  | str s => exact sameLoad_constructor index (some (.str s)) none
  | table fields =>
    show SameLoad Eq _ (tryTypeName index (Entries.get? fields "type") >>= fun typeName =>
      tryConstructor index typeName (Entries.get? fields "constructor"))
    unfold readEntry
    dsimp only
    cases Entries.get? fields "type" with
    | none => exact sameLoad_constructor index _ none
    | some v =>
      cases v with
      | str name => exact sameLoad_constructor index _ (some name)
      | _ => exact .error (SettingsError.typeNotAText index)
  | _ => exact .error (SettingsError.malformedEntry index)

theorem sameLoad_entries (index : Nat) (items : List Toml) :
    SameLoad Eq (readEntries index items) (tryEntries index items) := by
  induction items generalizing index with
  | nil => exact .ok rfl
  | cons entry items ih =>
    refine (sameLoad_entry index entry).bind ?_
    rintro ref _ rfl
    refine (ih (index + 1)).bind ?_
    rintro refs _ rfl
    exact .ok rfl

theorem sameLoad_indent (setting : Option Toml) :
    SameLoad Eq (readIndent setting) (tryIndent (setting.getD (.int 2))) := by
  cases setting with
  | none => exact .ok rfl
  | some v =>
    unfold tryIndent
    refine .useAs (by rfl) (fun i hi => ?_) fun hnone => ?_
    · cases v <;> cases hi
      cases i with
      | ofNat n =>
        have hcheck : check (decide (0 ≤ Int.ofNat n)) SettingsError.badIndent = .ok () :=
          if_pos (decide_eq_true (Int.natCast_nonneg n))
        rw [hcheck]
        exact .ok rfl
      | negSucc n => exact .error SettingsError.badIndent
    · cases v <;> first | rfl | cases hnone

theorem sameLoad_table (path : Path) (fields : List (String × Toml)) :
    SameLoad Eq (settingsTable path (.table fields)) (tryTable path (.table fields)) := by
  have hfield : (Toml.table fields).field? "tool" = Entries.get? fields "tool" := rfl
  have huse : (useAs fields? (.table fields) : Except LoadFault _) = .ok fields := rfl
  unfold settingsTable tryTable
  by_cases hname : path.name = sharedName
  · rw [if_pos hname, if_pos hname, hfield, huse]
    simp only [bind, Except.bind]
    cases Entries.get? fields "tool" with
    | none => exact .ok rfl
    | some v =>
      cases v with
      | table tools => exact .ok rfl
      | _ => exact .error (SettingsError.toolNotATable _)
  · rw [if_neg hname, if_neg hname]
    exact .ok rfl

theorem sameLoad_form (setting : Option Toml) :
    SameLoad Eq (readForm setting) ((readForm setting).mapError .refused) := by
  cases h : readForm setting with
  | ok form => exact .ok rfl
  | error cause =>
    have hcause : cause = .unknownForm := by
      unfold readForm at h
      split at h
      · cases h
      · dsimp only at h
        split at h <;> cases h
        rfl
      · cases h
        rfl
    rw [hcause]
    exact .error SettingsError.unknownForm

theorem sameLoad_fields (path : Path) (fields : List (String × Toml)) (items : List Toml) :
    SameLoad Eq
      (do
        let form ← readForm (Entries.get? fields "output")
        let indent ← readIndent (Entries.get? fields "indent")
        let refs ← readEntries 0 items
        (.ok ⟨refs, form, indent, some path⟩ : Except SettingsError Settings))
      (do
        let form ← (readForm (Entries.get? fields "output")).mapError .refused
        let indent ← tryIndent ((Entries.get? fields "indent").getD (.int 2))
        let items ← useAs items? (.array items)
        let refs ← tryEntries 0 items
        .ok ⟨refs, form, indent, some path⟩) := by
  refine (sameLoad_form _).bind ?_
  rintro form _ rfl
  refine (sameLoad_indent _).bind ?_
  rintro indent _ rfl
  refine SameOutcome.bind (R := Eq) (sameLoad_entries 0 items) ?_
  rintro refs _ rfl
  exact .ok rfl

theorem sameLoad_settings (path : Path) (data : Toml) :
    SameLoad Eq
      (match data with
        | .table fields => ofTable path fields
        | _ => .error (.notATable path))
      (trySettings path data) := by
  unfold trySettings
  refine .useAs (by rfl) (fun fields hfields => ?_) fun hnone => ?_
  · cases data <;> cases hfields
    dsimp only
    rw [ofTable_eq]
    cases Entries.get? fields "template_types" with
    | none => exact sameLoad_fields path fields []
    | some v =>
      cases v with
      | array items => exact sameLoad_fields path fields items
      | _ => exact .error SettingsError.typesNotAList
  · cases data <;> first | rfl | cases hnone

theorem exists_table_of_read {text : String} {document : Toml}
    (h : Toml.read text = .ok document) : ∃ fields, document = .table fields := by
  obtain ⟨d, -, h⟩ := bind_eq_ok_iff.1 h
  cases h
  exact ⟨_, rfl⟩

theorem sameLoad_text (t : FileTree) (path : Path) :
    SameLoad Eq ((t.read path).mapError (SettingsError.ofReading path)) (tryText t path) := by
  unfold tryText
  cases t.read path with
  | ok text => exact .ok rfl
  | error cause => cases cause <;> exact .error (SettingsError.ofReading path _)

theorem sameLoad_load (t : FileTree) (path : Path) :
    SameLoad Eq (load t path) (tryLoad t path) := by
  refine (sameLoad_text t path).bind ?_
  rintro text _ rfl
  unfold ofText
  cases hread : Toml.read text with
  | error e => exact .error (SettingsError.unreadable path (.malformed e))
  | ok document =>
    obtain ⟨fields, rfl⟩ := exists_table_of_read hread
    show SameOutcome LoadFault.ofCause Eq (settingsTable path (.table fields) >>= _)
      (tryTable path (.table fields) >>= _)
    refine (sameLoad_table path fields).bind ?_
    rintro data _ rfl
    exact sameLoad_settings path data

end Covered

/-! ## What loading leads to -/

/-- Loading succeeds exactly on a TOML file with a table that says the settings. -/
theorem load_ok_iff {t : FileTree} {path : Path} {s : Settings} :
    load t path = .ok s ↔ s.path = some path ∧ ∃ text document fields,
      t.read path = .ok text ∧ Toml.read text = .ok document ∧
      TableOf path document fields ∧ SaidBy fields s := by
  constructor
  · intro h
    obtain ⟨text, hfile, h⟩ := bind_eq_ok_iff.1 h
    obtain ⟨document, hread, h⟩ := bind_eq_ok_iff.1 h
    obtain ⟨data, htable, h⟩ := bind_eq_ok_iff.1 h
    split at h
    · next fields =>
      obtain ⟨hsaid, hpath⟩ := ofTable_ok_iff.1 h
      exact ⟨hpath, text, document, fields, mapError_eq_ok_iff.1 hfile,
        mapError_eq_ok_iff.1 hread, settingsTable_ok_iff.1 htable, hsaid⟩
    · cases h
  · rintro ⟨hpath, text, document, fields, hfile, hread, htable, hsaid⟩
    refine bind_eq_ok_iff.2 ⟨text, mapError_eq_ok_iff.2 hfile, ?_⟩
    refine bind_eq_ok_iff.2 ⟨document, mapError_eq_ok_iff.2 hread, ?_⟩
    refine bind_eq_ok_iff.2 ⟨.table fields, settingsTable_ok_iff.2 htable, ?_⟩
    exact ofTable_ok_iff.2 ⟨hsaid, hpath⟩

/-- If a result is missing, a check has failed. -/
def OnlyChecks {α : Type} (x : Except SettingsError α) : Prop :=
  ∀ cause, x = .error cause → LoadFault.ofCause cause = .refused cause

namespace OnlyChecks

variable {α γ : Type} {x : Except SettingsError α}

theorem ok (a : α) : OnlyChecks (.ok a) := nofun

theorem error {cause : SettingsError} (h : LoadFault.ofCause cause = .refused cause) :
    OnlyChecks (.error cause : Except SettingsError α) := by
  rintro _ ⟨⟩
  exact h

theorem bind {k : α → Except SettingsError γ} (hx : OnlyChecks x) (hk : ∀ a, OnlyChecks (k a)) :
    OnlyChecks (x >>= k) := by
  intro cause h
  rcases bind_eq_error_iff.1 h with h | ⟨a, -, h⟩
  · exact hx cause h
  · exact hk a cause h

theorem map (f : α → γ) (hx : OnlyChecks x) : OnlyChecks (x.map f) :=
  hx.bind fun a => .ok (f a)

end OnlyChecks

theorem onlyChecks_readTarget (index : Nat) (v : Option Toml) :
    OnlyChecks (readTarget index v) := by
  unfold readTarget
  split
  · split
    · exact .ok _
    · exact .error rfl
  · exact .error rfl

theorem onlyChecks_readEntry (index : Nat) (entry : Toml) : OnlyChecks (readEntry index entry) := by
  unfold readEntry
  split
  · exact (onlyChecks_readTarget _ _).map _
  · split
    · exact (onlyChecks_readTarget _ _).map _
    · exact (onlyChecks_readTarget _ _).map _
    · exact .error rfl
  · exact .error rfl

theorem onlyChecks_readEntries (index : Nat) (items : List Toml) :
    OnlyChecks (readEntries index items) := by
  induction items generalizing index with
  | nil => exact .ok _
  | cons entry items ih =>
    exact (onlyChecks_readEntry index entry).bind fun _ => (ih _).bind fun _ => .ok _

theorem onlyChecks_ofTable (path : Path) (fields : List (String × Toml)) :
    OnlyChecks (ofTable path fields) := by
  have hlist : ∀ v, OnlyChecks (readList v) := by
    intro v
    unfold readList
    split
    · exact .ok _
    · exact .ok _
    · exact .error rfl
  have hform : ∀ v, OnlyChecks (readForm v) := by
    intro v
    unfold readForm
    split
    · exact .ok _
    · dsimp only
      split
      · exact .ok _
      · exact .error rfl
    · exact .error rfl
  have hindent : ∀ v, OnlyChecks (readIndent v) := by
    intro v
    unfold readIndent
    split
    · exact .ok _
    · exact .ok _
    · exact .error rfl
  rw [ofTable_eq]
  exact (hlist _).bind fun _ => (hform _).bind fun _ => (hindent _).bind fun _ =>
    (onlyChecks_readEntries 0 _).bind fun _ => .ok _

/-- The value of a document that stands where the table of all tools should be. -/
structure Misplaced (path : Path) (document v : Toml) : Prop where
  shared : path.name = sharedName
  tool : document.field? "tool" = some v
  noTable : ∀ tools, v ≠ .table tools

theorem settingsTable_error_iff {path : Path} {document : Toml} {cause : SettingsError} :
    settingsTable path document = .error cause ↔
      ∃ v, Misplaced path document v ∧ cause = .toolNotATable (kindName v) := by
  unfold settingsTable
  constructor
  · intro h
    split at h
    · next hname =>
      split at h
      · cases h
      · cases h
      · next v hother htool =>
        cases h
        refine ⟨v, ⟨hname, htool, ?_⟩, rfl⟩
        rintro tools rfl
        exact hother tools rfl
    · cases h
  · rintro ⟨v, ⟨hname, htool, hother⟩, rfl⟩
    rw [if_pos hname, htool]
    cases v with
    | table tools => exact absurd rfl (hother tools)
    | _ => rfl

/-- Once there is a text, every fault but one is that of a check. -/
theorem onlyChecks_ofText {path : Path} {text : String} {cause : SettingsError}
    (h : ofText path text = .error cause) : LoadFault.ofCause cause = .refused cause ∨
      ∃ document v, Toml.read text = .ok document ∧ Misplaced path document v ∧
        cause = .toolNotATable (kindName v) := by
  rcases bind_eq_error_iff.1 h with h | ⟨document, hread, h⟩
  · obtain ⟨e, -, rfl⟩ := mapError_eq_error_iff.1 h
    exact .inl rfl
  · rcases bind_eq_error_iff.1 h with h | ⟨data, -, h⟩
    · obtain ⟨v, hv, hcause⟩ := settingsTable_error_iff.1 h
      exact .inr ⟨document, v, mapError_eq_ok_iff.1 hread, hv, hcause⟩
    · split at h
      · exact .inl (onlyChecks_ofTable path _ _ h)
      · cases h
        exact .inl rfl

/-- Loading stops at a value of a wrong kind exactly if it stands where all tools should be. -/
theorem load_eq_toolNotATable_iff {t : FileTree} {path : Path} {kind : String} :
    load t path = .error (.toolNotATable kind) ↔ ∃ text document v,
      t.read path = .ok text ∧ Toml.read text = .ok document ∧
      Misplaced path document v ∧ kind = kindName v := by
  constructor
  · intro h
    rcases bind_eq_error_iff.1 h with h | ⟨text, hfile, h⟩
    · obtain ⟨cause, -, h⟩ := mapError_eq_error_iff.1 h
      cases cause <;> cases h
    · rcases onlyChecks_ofText h with hcheck | ⟨document, v, hread, hv, hkind⟩
      · cases hcheck
      · cases hkind
        exact ⟨text, document, v, mapError_eq_ok_iff.1 hfile, hread, hv, rfl⟩
  · rintro ⟨text, document, v, hfile, hread, hv, rfl⟩
    refine bind_eq_error_iff.2 (.inr ⟨text, mapError_eq_ok_iff.2 hfile, ?_⟩)
    refine bind_eq_error_iff.2 (.inr ⟨document, mapError_eq_ok_iff.2 hread, ?_⟩)
    exact bind_eq_error_iff.2 (.inl (settingsTable_error_iff.2 ⟨v, hv, rfl⟩))

/-- Loading stops at bytes that are no text exactly if those of the file are none. -/
theorem load_eq_notText_iff {t : FileTree} {path : Path} {fault : Text.CodingFault} :
    load t path = .error (.notText fault) ↔ t.read path = .error (.notText fault) := by
  constructor
  · intro h
    rcases bind_eq_error_iff.1 h with h | ⟨text, hfile, h⟩
    · obtain ⟨cause, hcause, h⟩ := mapError_eq_error_iff.1 h
      cases cause <;> cases h
      exact hcause
    · rcases onlyChecks_ofText h with hcheck | ⟨document, v, -, -, hkind⟩
      · cases hcheck
      · cases hkind
  · intro hfile
    exact bind_eq_error_iff.2 (.inl (mapError_eq_error_iff.2 ⟨_, hfile, rfl⟩))

/-- The outcome of loading, where every use of a value may fail. There are settings exactly if the
file is TOML with a table that says them, and a use fails exactly at what a shared file has in place
of the table of all tools, or at bytes that are no text. In every other case a check fails. -/
theorem load_outcome (t : FileTree) (path : Path) :
    tryLoad t path = (load t path).mapError LoadFault.ofCause ∧
    (∀ s, tryLoad t path = .ok s ↔ s.path = some path ∧
      (∀ ref ∈ s.templateTypes, ':' ∈ ref.target.toList) ∧ ∃ text document fields,
        t.read path = .ok text ∧ Toml.read text = .ok document ∧
        TableOf path document fields ∧ SaidBy fields s) ∧
    (∀ kind, tryLoad t path = .error (.wrongKind kind) ↔ ∃ text document v,
      t.read path = .ok text ∧ Toml.read text = .ok document ∧
      Misplaced path document v ∧ kind = kindName v) ∧
    (∀ fault, tryLoad t path = .error (.notText fault) ↔ t.read path = .error (.notText fault)) ∧
    ∀ key, tryLoad t path ≠ .error (.missingKey key) := by
  have hload : tryLoad t path = (load t path).mapError LoadFault.ofCause :=
    (sameLoad_load t path).eq_mapError
  refine ⟨hload, fun s => ?_, fun kind => ?_, fun fault => ?_, fun key => ?_⟩
  · rw [hload, mapError_eq_ok_iff, load_ok_iff]
    constructor
    · rintro ⟨hpath, text, document, fields, hfile, hread, htable, hsaid⟩
      exact ⟨hpath, hsaid.colon_mem, text, document, fields, hfile, hread, htable, hsaid⟩
    · rintro ⟨hpath, -, hfields⟩
      exact ⟨hpath, hfields⟩
  · rw [hload, mapError_eq_error_iff, ← load_eq_toolNotATable_iff]
    constructor
    · rintro ⟨cause, hcause, hfault⟩
      cases cause <;> cases hfault
      exact hcause
    · intro h
      exact ⟨_, h, rfl⟩
  · rw [hload, mapError_eq_error_iff]
    constructor
    · rintro ⟨cause, hcause, hfault⟩
      cases cause <;> cases hfault
      exact load_eq_notText_iff.1 hcause
    · intro h
      exact ⟨_, load_eq_notText_iff.2 h, rfl⟩
  · rw [hload]
    intro h
    obtain ⟨cause, -, hfault⟩ := mapError_eq_error_iff.1 h
    cases cause <;> cases hfault

/-- Loading a text does not always end with settings or a check that fails. -/
theorem not_loaded_or_refused : ¬∀ t path text, t.read path = .ok text →
    (∃ s, tryLoad t path = .ok s) ∨ ∃ cause, tryLoad t path = .error (.refused cause) := by
  intro h
  let t : FileTree := ⟨[], [(["pyproject.toml"], "tool = 1\n".toUTF8)], [[]]⟩
  have htext : t.read ⟨.here, ["pyproject.toml"]⟩ = .ok "tool = 1\n" := by decide +kernel
  have hfault : tryLoad t ⟨.here, ["pyproject.toml"]⟩ = .error (.wrongKind "int") := by
    decide +kernel
  rcases h t ⟨.here, ["pyproject.toml"]⟩ _ htext with ⟨s, hs⟩ | ⟨cause, hcause⟩
  · rw [hs] at hfault
    cases hfault
  · rw [hcause] at hfault
    cases hfault

end Settings

end StyleUsage
