import StyleUsage.Datum.Display
import StyleUsage.Walk.Script

/-!
# Reading walk scripts

A walk script is read from the value of a document. The blocks are read first, then the template,
then the elements; at last every reference is resolved, so a script that is read can be replayed
without looking for styles in vain. Block keys are compared by their texts.
-/

namespace StyleUsage

namespace WalkScript

/-- A list of texts; null stands for the empty list. -/
def readTexts (place : ListPlace) (d : Datum) : Except WalkError (List String) :=
  match d.opened with
  | .null => .ok []
  | .list _ items =>
    match items.mapM Datum.text? with
    | some texts => .ok texts
    | none => .error (.notTexts place)
  | _ => .error (.notTexts place)

/-- Whether the template binds a block, as its entry says. Without a word on it, it does. -/
def readBind (name : String) (entries : List (Datum × Datum)) : Except WalkError Bool :=
  match Datum.lookup? entries "bind" with
  | none => .ok true
  | some (.bool b) => .ok b
  | some _ => .error (.malformedBind name)

/-- A declared block, and whether the template binds it. A text stands for a block without styles
and dependencies. -/
def readBlock (name : String) (d : Datum) : Except WalkError (BlockDeclaration × Bool) :=
  match d.opened with
  | .str source => .ok (⟨source, ∅, []⟩, true)
  | .map _ entries =>
    match Datum.lookup entries "source" with
    | .str source => do
      let styles ← readTexts (.styles name) (Datum.lookup entries "styles")
      let dependsOn ← readTexts (.dependencies name) (Datum.lookup entries "depends_on")
      let bind ← readBind name entries
      .ok (⟨source, OrderedSet.ofList styles, dependsOn⟩, bind)
    | _ => .error (.noSource name)
  | _ => .error (.noSource name)

/-- The blocks of a script and the aliases that the template binds. -/
structure Blocks where
  declared : Entries String BlockDeclaration
  bound : List String
  deriving Inhabited

/-- Take up one entry of the blocks. A later entry for an alias replaces the earlier one, which
leaves its mark among the bound aliases. -/
def Blocks.takeUp (b : Blocks) (entry : Datum × Datum) : Except WalkError Blocks := do
  let name := entry.1.display
  let (block, bind) ← readBlock name entry.2
  .ok ⟨Entries.put b.declared name block, if bind then b.bound ++ [name] else b.bound⟩

def Blocks.unknownDependency? (b : Blocks) : Option WalkError :=
  b.declared.findSome? fun (name, block) =>
    block.dependsOn.findSome? fun dependency =>
      if Entries.has b.declared dependency then none
      else some (.unknownDependency name dependency)

def readBlocks (d : Datum) : Except WalkError Blocks :=
  match d.opened with
  | .null => .ok ⟨[], []⟩
  | .map _ entries => do
    let blocks ← entries.foldlM Blocks.takeUp ⟨[], []⟩
    match blocks.unknownDependency? with
    | some e => .error e
    | none => .ok blocks
  | _ => .error .blocksNotAMapping

/-- The text of a value, or a default if the value is empty or zero. -/
def textOr (default : String) (d : Datum) : String :=
  if d.isBare then default else d.display

def readTemplate (identifier : String) (d : Datum) : Except WalkError Descriptor :=
  match d.opened with
  | .null => .ok ⟨TemplateKind.base.typeName, .str identifier, none⟩
  | .map _ entries =>
    let type := textOr TemplateKind.base.typeName (Datum.lookup entries "type")
    let identifier := Datum.str (textOr identifier (Datum.lookup entries "identifier"))
    match (Datum.lookup entries "data").opened with
    | .null => .ok ⟨type, identifier, none⟩
    | .list _ items => .ok ⟨type, identifier, some items⟩
    | _ => .error .payloadNotAList
  | _ => .error .templateNotAMapping

/-- Read the element with number `n`. -/
def readElement (n : Nat) (d : Datum) : Except WalkError WalkElement :=
  match d.opened with
  | .null => .ok ⟨[], []⟩
  | .list .. => do
    let styles ← readTexts (.element n) d
    .ok ⟨styles, []⟩
  | .map _ entries => do
    let styles ← readTexts (.elementStyles n) (Datum.lookup entries "styles")
    let dynamic ← readTexts (.elementDynamic n) (Datum.lookup entries "dynamic")
    .ok ⟨styles, dynamic⟩
  | _ => .error (.malformedElement n)

/-- Read the elements from the one with number `n` on. -/
def readElementsFrom : Nat → List Datum → Except WalkError (List WalkElement)
  | _, [] => .ok []
  | n, d :: rest => do
    let element ← readElement n d
    let others ← readElementsFrom (n + 1) rest
    .ok (element :: others)

def readElements (d : Datum) : Except WalkError (List WalkElement) :=
  match d.opened with
  | .null => .ok []
  | .list _ items => readElementsFrom 0 items
  | _ => .error .elementsNotAList

/-- All references of a script, in the order of the elements. -/
def references (s : WalkScript) : List String :=
  s.elements.flatMap fun e => e.styles ++ e.dynamic

/-- Read a walk script. A template without an identifier gets the given one. -/
def read (identifier : String) (d : Datum) : Except WalkError WalkScript :=
  let readEntries (entries : List (Datum × Datum)) : Except WalkError WalkScript := do
    let blocks ← readBlocks (Datum.lookup entries "blocks")
    let template ← readTemplate identifier (Datum.lookup entries "template")
    let elements ← readElements (Datum.lookup entries "elements")
    let script : WalkScript := ⟨template, blocks.declared, blocks.bound, elements⟩
    script.references.forM fun r => (script.resolve r).map fun _ => ()
    .ok script
  match d.opened with
  | .null => readEntries []
  | .map _ entries => readEntries entries
  | _ => .error .notAMapping

def defaultIdentifier : String := "<walk>"

end WalkScript

end StyleUsage
