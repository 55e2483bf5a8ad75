import StyleUsage.Text.Quoted

/-!
# Faults of a walk script
-/

namespace StyleUsage

/-- A place of a walk script that holds a list of texts. -/
inductive ListPlace where
  | styles (name : String)
  | dependencies (name : String)
  | element (index : Nat)
  | elementStyles (index : Nat)
  | elementDynamic (index : Nat)
  deriving DecidableEq, Repr

def ListPlace.name : ListPlace → String
  | .styles name => "blocks." ++ name ++ ".styles"
  | .dependencies name => "blocks." ++ name ++ ".depends_on"
  | .element n => "elements[" ++ toString n ++ "]"
  | .elementStyles n => "elements[" ++ toString n ++ "].styles"
  | .elementDynamic n => "elements[" ++ toString n ++ "].dynamic"

/-- Why a walk script is refused. -/
inductive WalkError where
  | notAMapping
  | blocksNotAMapping
  | noSource (name : String)
  | notTexts (place : ListPlace)
  | malformedBind (name : String)
  | unknownDependency (name dependency : String)
  | templateNotAMapping
  | payloadNotAList
  | elementsNotAList
  | malformedElement (index : Nat)
  /-- A reference that cannot be split into an alias and a fragment. -/
  | invalidReference (reference : String)
  | unknownAlias (reference : String)
  | unknownStyle (name fragment : String)
  deriving DecidableEq, Repr

/-- The wording of a fault. -/
def WalkError.message : WalkError → String
  | .notAMapping => "walk script must be a mapping"
  | .blocksNotAMapping => "blocks must be a mapping of alias to block"
  | .noSource name => "Block " ++ Text.quoted name ++ " must declare a source string"
  | .notTexts place => place.name ++ " must be a list of strings"
  | .malformedBind name => "blocks." ++ name ++ ".bind must be true or false"
  | .unknownDependency name dependency =>
    "Block " ++ Text.quoted name ++ " depends on unknown block " ++ Text.quoted dependency
  | .templateNotAMapping => "template must be a mapping"
  | .payloadNotAList => "template.data must be a list"
  | .elementsNotAList => "elements must be a list"
  | .malformedElement n => "elements[" ++ toString n ++ "] must be a list of styles or a mapping"
  | .invalidReference r => "Invalid style reference: " ++ Text.quoted r
  | .unknownAlias r => "Unknown block alias in style reference: " ++ Text.quoted r
  | .unknownStyle name fragment =>
    "Block " ++ Text.quoted name ++ " has no style " ++ Text.quoted fragment

end StyleUsage
