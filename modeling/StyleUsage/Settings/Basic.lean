import StyleUsage.Analysis.Rendering
import StyleUsage.File.Tree
import StyleUsage.Text.Basic
import StyleUsage.Toml.Reader

/-!
# Settings

Settings say which template types are known, and how summaries are rendered. They are read from a
TOML file of their own, or from the table `tool.blockref` of a file `pyproject.toml`.
-/

namespace StyleUsage

/-- A constructor that settings ask for. -/
structure TemplateTypeRef where
  /-- The place of the constructor: a module, a colon and the path in the module. -/
  target : String
  /-- The type name to register it under, if not that of its kind. -/
  typeName : Option String
  deriving DecidableEq, Repr, Inhabited

/-- What may be set. -/
structure Settings where
  templateTypes : List TemplateTypeRef
  form : OutputForm
  indent : Nat
  /-- The file that the settings were read from. -/
  path : Option Path
  deriving DecidableEq, Repr, Inhabited

def Settings.default : Settings := ⟨[], .json, 2, none⟩

/-- Why a file cannot be read as TOML. -/
inductive SettingsSource where
  | unreadable (cause : ReadingError)
  | malformed (cause : TomlError)
  deriving DecidableEq, Repr

/-- Why there are no settings. -/
inductive SettingsError where
  | unreadable (path : Path) (cause : SettingsSource)
  /-- The bytes of the file are no text. -/
  | notText (fault : Text.CodingFault)
  /-- The value `tool` is no table but one of the given kind. -/
  | toolNotATable (kind : String)
  | notATable (path : Path)
  | typesNotAList
  | unknownForm
  | badIndent
  /-- The faults of an entry of the template types, by its place in the list. -/
  | typeNotAText (index : Nat)
  | malformedEntry (index : Nat)
  | malformedTarget (index : Nat)
  deriving DecidableEq, Repr

/-- The wording of a cause for a file. -/
def SettingsSource.message (path : Path) : SettingsSource → String
  | .unreadable cause => cause.message path
  | .malformed cause => cause.message

def entryName (index : Nat) : String := "template_types[" ++ toString index ++ "]"

/-- The wording of a fault without the details of a reader. -/
def SettingsError.headline : SettingsError → String
  | .unreadable path _ => "Failed to read config " ++ path.text
  | .notText fault => fault.message
  | .toolNotATable kind => Text.quoted kind ++ " object has no attribute 'get'"
  | .notATable path => "Config in " ++ path.text ++ " must be a table"
  | .typesNotAList => "template_types must be a list"
  | .unknownForm => "output must be one of: " ++ ", ".intercalate (OutputForm.all.map (·.name))
  | .badIndent => "indent must be a non-negative integer"
  | .typeNotAText n => entryName n ++ ".type must be a string"
  | .malformedEntry n => entryName n ++ " must be a string or a table"
  | .malformedTarget n => entryName n ++ " must look like 'package.module:attr'"

/-- The wording of a fault. -/
def SettingsError.message (e : SettingsError) : String :=
  match e with
  | .unreadable path cause => e.headline ++ ": " ++ cause.message path
  | _ => e.headline

/-- Whether a fault is not one that settings are checked for, so that it is not told as one. -/
def SettingsError.escapes : SettingsError → Bool
  | .notText _ | .toolNotATable _ => true
  | _ => false

/-- The fault that a file which cannot be read gives. Only bytes that are no text are not caught. -/
def SettingsError.ofReading (path : Path) : ReadingError → SettingsError
  | .notText fault => .notText fault
  | cause => .unreadable path (.unreadable cause)

namespace Settings

def kindName : Toml → String
  | .str _ => "str"
  | .int _ => "int"
  | .float _ => "float"
  | .bool _ => "bool"
  | .moment text =>
    if text.toList.contains '-' then
      (if text.length = 10 then "datetime.date" else "datetime.datetime")
    else "datetime.time"
  | .array _ => "list"
  | .table _ => "dict"

/-- The name of a file whose settings are one table among others. -/
def sharedName : String := "pyproject.toml"

/-- The value of a file that should be the table of the settings. -/
def settingsTable (path : Path) (document : Toml) : Except SettingsError Toml :=
  if path.name = sharedName then
    match document.field? "tool" with
    | none => .ok (.table [])
    | some (.table tools) => .ok ((Entries.get? tools "blockref").getD (.table []))
    | some other => .error (.toolNotATable (kindName other))
  else .ok document

/-- The form that a setting names; blanks and case do not matter. -/
def readForm (setting : Option Toml) : Except SettingsError OutputForm :=
  match setting with
  | none => .ok default.form
  | some (.str s) =>
    let name := String.ofList ((Text.stripChars s.toList).map Char.toLower)
    match OutputForm.ofName? name with
    | some form => .ok form
    | none => .error .unknownForm
  | some _ => .error .unknownForm

def readIndent (setting : Option Toml) : Except SettingsError Nat :=
  match setting with
  | none => .ok default.indent
  | some (.int (.ofNat n)) => .ok n
  | some _ => .error .badIndent

/-- The target of an entry; blanks around it do not matter. -/
def readTarget (index : Nat) (target : Option Toml) : Except SettingsError String :=
  match target with
  | some (.str s) =>
    if s.toList.contains ':' then .ok (Text.strip s) else .error (.malformedTarget index)
  | _ => .error (.malformedTarget index)

def readEntry (index : Nat) (entry : Toml) : Except SettingsError TemplateTypeRef :=
  match entry with
  | .str _ => (readTarget index (some entry)).map fun target => ⟨target, none⟩
  | .table fields =>
    match Entries.get? fields "type" with
    | none => (readTarget index (Entries.get? fields "constructor")).map fun t => ⟨t, none⟩
    | some (.str name) =>
      (readTarget index (Entries.get? fields "constructor")).map fun t => ⟨t, some name⟩
    | some _ => .error (.typeNotAText index)
  | _ => .error (.malformedEntry index)

def readEntries (index : Nat) : List Toml → Except SettingsError (List TemplateTypeRef)
  | [] => .ok []
  | entry :: rest => do
    let ref ← readEntry index entry
    let refs ← readEntries (index + 1) rest
    .ok (ref :: refs)

/-- The settings of a table. The list of template types is looked into last. -/
def ofTable (path : Path) (fields : List (String × Toml)) : Except SettingsError Settings := do
  let entries ← match Entries.get? fields "template_types" with
    | none => .ok []
    | some (.array items) => .ok items
    | some _ => .error .typesNotAList
  let form ← readForm (Entries.get? fields "output")
  let indent ← readIndent (Entries.get? fields "indent")
  let templateTypes ← readEntries 0 entries
  .ok ⟨templateTypes, form, indent, some path⟩

def ofText (path : Path) (text : String) : Except SettingsError Settings := do
  let document ← (Toml.read text).mapError fun e => .unreadable path (.malformed e)
  match ← settingsTable path document with
  | .table fields => ofTable path fields
  | _ => .error (.notATable path)

end Settings

end StyleUsage
