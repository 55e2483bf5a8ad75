import StyleUsage.Datum.Display
import StyleUsage.Template.Info

/-!
# The registry of template types

A registry says which constructor builds the templates of a type name. Registering a name again
replaces its constructor, with a notice if the new one is another. Rebuilding a template from its
descriptor looks up the type name and hands the identifier and the payload to the constructor.
-/

namespace StyleUsage

/-- Something that builds templates. -/
structure Constructor where
  /-- The name under which the constructor is listed; constructors are told apart by it. -/
  label : String
  /-- The kind of template it is the constructor of, if it is that of a kind. -/
  kind? : Option TemplateKind
  build : Datum → List Datum → TemplateInfo
  deriving Inhabited

/-- The constructor of the base kind: it drops the payload. -/
def Constructor.base : Constructor where
  label := "blockref.template.info.TemplateInfo"
  kind? := some .base
  build identifier _ := ⟨.base, identifier, []⟩

/-- Which constructor stands behind each type name. -/
abbrev Registry := Entries String Constructor

/-- What is told about a registration. -/
inductive Notice where
  | replaced (typeName : String)
  deriving DecidableEq, Repr

def Notice.message : Notice → String
  | .replaced typeName => "Replacing template info constructor for " ++ typeName

/-- Why a template cannot be rebuilt from its fields. -/
inductive DescriptorError where
  /-- No constructor is registered; the type is given by its text. -/
  | unknownType (type : String)
  | missing (field : String)
  /-- The payload is a value of a kind that has no items. -/
  | noItems (kind : String)
  deriving DecidableEq, Repr

/-- The wording of a cause. -/
def DescriptorError.message : DescriptorError → String
  | .unknownType type => "No template info registered for " ++ type
  | .missing field => Text.quoted field
  | .noItems kind => "Value after * must be an iterable, not " ++ kind

/-- Whether a cause is not one that is checked for, so that it is not told as one. -/
def DescriptorError.escapes : DescriptorError → Bool
  | .unknownType _ => false
  | .missing _ | .noItems _ => true

namespace Registry

/-- The registry without entries. -/
def empty : Registry := []

def register (r : Registry) (typeName : String) (c : Constructor) : Registry :=
  r.put typeName c

/-- The notice that a registration gives: the constructor of the name is replaced by another. -/
def notice? (r : Registry) (typeName : String) (c : Constructor) : Option Notice :=
  match r.get? typeName with
  | some old => if old.label = c.label then none else some (.replaced typeName)
  | none => none

/-- The registry that holds the base kind. -/
def initial : Registry := register empty TemplateKind.base.typeName .base

/-- The type names in the order of code points. -/
def typeNames (r : Registry) : List String := r.keys.mergeSort

/-- The type names in the order of code points, each with the label of its constructor. -/
def listing (r : Registry) : List (String × String) :=
  r.typeNames.map fun name => (name, ((r.get? name).map Constructor.label).getD "")

def create (r : Registry) (typeName : String) (identifier : Datum) (payload : List Datum) :
    Except DescriptorError TemplateInfo :=
  match r.get? typeName with
  | some c => .ok (c.build identifier payload)
  | none => .error (.unknownType typeName)

/-- Build a template of a type that may be no text; only texts are registered. -/
def createOf (r : Registry) (type identifier : Datum) (payload : List Datum) :
    Except DescriptorError TemplateInfo :=
  match type with
  | .str typeName => r.create typeName identifier payload
  | other => .error (.unknownType other.display)

def rebuild (r : Registry) (d : Descriptor) : Except DescriptorError TemplateInfo :=
  r.create d.type d.identifier (d.data.getD [])

/-- The payload that the `data` of a descriptor stands for: the items of a list, the characters
of a text and the keys of a mapping. A value that is empty or zero stands for no payload. -/
def payloadOf (data : Datum) : Except DescriptorError (List Datum) :=
  match data.opened with
  | .list _ items | .set _ items => .ok items
  | .pair first second => .ok [first, second]
  | .str s => .ok (s.toList.map fun c => .str (String.singleton c))
  | .bytes content => .ok (content.map fun n => .int (Int.ofNat n))
  | .map _ entries => .ok (entries.map Prod.fst)
  | d => if d.isBare then .ok [] else .error (.noItems d.kindName)

def rebuildEntries (r : Registry) (entries : List (Datum × Datum)) :
    Except DescriptorError TemplateInfo :=
  match Datum.lookup? entries "type", Datum.lookup? entries "identifier" with
  | none, _ => .error (.missing "type")
  | some _, none => .error (.missing "identifier")
  | some type, some identifier => do
    let payload ← payloadOf (Datum.lookup entries "data")
    r.createOf type identifier payload

end Registry

end StyleUsage
