import StyleUsage.Block.Dependencies
import StyleUsage.Template.Info
import StyleUsage.Text.Basic
import StyleUsage.Walk.Error

/-!
# Walk scripts

A walk script is the record of a walk: the template, the blocks under aliases with the styles
they declare, the aliases that the template binds, and the styles of each element. A style is
referred to by the alias of its block followed by its fragment. An alias stands for one block and
a fragment for one style of it, so the pair of both is a handle of the style.
-/

namespace StyleUsage

/-- A block as a walk script declares it. -/
structure BlockDeclaration where
  source : String
  /-- The fragments of its styles, in order of first mention. -/
  styles : OrderedSet String
  /-- The aliases of the blocks it depends on, in order. -/
  dependsOn : List String
  deriving Inhabited

/-- The references of one element, as they are written. -/
structure WalkElement where
  styles : List String
  dynamic : List String
  deriving DecidableEq, Repr, Inhabited

/-- A style of a walk script. -/
structure StyleRef where
  block : String
  fragment : String
  deriving DecidableEq, Repr, Inhabited

/-- The record of a walk. -/
structure WalkScript where
  template : Descriptor
  blocks : Entries String BlockDeclaration
  /-- The aliases that the template binds, in order. -/
  bound : List String
  elements : List WalkElement
  deriving Inhabited

def startsFragment (c : Char) : Bool := c == '.' || c == '[' || c == ':'

/-- Split a reference into an alias and a fragment. Neither is empty, and the fragment has no
line feed. -/
def splitReference (cs : List Char) : Option (List Char × List Char) :=
  let name := cs.takeWhile fun c => !startsFragment c
  let fragment := cs.dropWhile fun c => !startsFragment c
  if name.isEmpty || fragment.isEmpty || fragment.contains '\n' then none
  else some (name, fragment)

namespace WalkScript

/-- The style that a reference stands for, blanks around it aside. -/
def resolve (s : WalkScript) (reference : String) : Except WalkError StyleRef :=
  match splitReference (Text.stripChars reference.toList) with
  | none => .error (.invalidReference reference)
  | some (name, fragment) =>
    let style : StyleRef := ⟨String.ofList name, String.ofList fragment⟩
    match Entries.get? s.blocks style.block with
    | none => .error (.unknownAlias reference)
    | some block =>
      if style.fragment ∈ block.styles then .ok style
      else .error (.unknownStyle style.block style.fragment)

def source (s : WalkScript) (name : String) : String :=
  ((Entries.get? s.blocks name).map BlockDeclaration.source).getD ""

def declared (s : WalkScript) : Dependencies String :=
  Entries.mapValues BlockDeclaration.dependsOn s.blocks

/-- The blocks and styles of a script; aliases are the handles of blocks. -/
def catalog (s : WalkScript) : Catalog String StyleRef where
  source := s.source
  reports := (Entries.keys s.blocks).map fun name => (name, (s.declared.below name).toList)
  owner := StyleRef.block
  fragment := StyleRef.fragment

end WalkScript

end StyleUsage
