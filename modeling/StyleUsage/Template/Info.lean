import StyleUsage.Datum.Key

/-!
# Templates

A template is known by the kind of template it is, an identifier and whatever else its kind keeps
as a payload. Its descriptor is the form in which it travels: the type name of its kind, the
identifier and, if there is one, the payload.
-/

namespace StyleUsage

/-- A kind of template: its own name, and the type name that its descriptors carry. -/
structure TemplateKind where
  name : String
  typeName : String
  deriving DecidableEq, Repr, Inhabited

/-- The kind that keeps the identifier alone. -/
def TemplateKind.base : TemplateKind := ⟨"TemplateInfo", "CssBlocks.TemplateInfo"⟩

/-- The descriptor of a template. Identifiers are texts in every walk, but a descriptor that is
handed in may carry any value; it is passed on unread. -/
structure Descriptor where
  type : String
  identifier : Datum
  data : Option (List Datum)
  deriving Inhabited

def Descriptor.toDatum (d : Descriptor) : Datum :=
  .ofFields ([("type", .str d.type), ("identifier", d.identifier)] ++
    match d.data with
    | some items => [("data", .list none items)]
    | none => [])

structure TemplateInfo where
  kind : TemplateKind
  identifier : Datum
  /-- What the kind keeps beside the identifier. -/
  payload : List Datum
  deriving Inhabited

/-- The descriptor of a template; an empty payload is left out. -/
def TemplateInfo.describe (t : TemplateInfo) : Descriptor where
  type := t.kind.typeName
  identifier := t.identifier
  data := if t.payload.isEmpty then none else some t.payload

/-- Whether two templates are of one kind and alike in identifier and payload. -/
def TemplateInfo.alike (s t : TemplateInfo) : Bool :=
  s.kind == t.kind && Datum.alike s.identifier t.identifier &&
    Datum.alikeList s.payload t.payload

end StyleUsage
