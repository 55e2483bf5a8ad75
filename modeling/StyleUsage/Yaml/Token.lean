import StyleUsage.Yaml.Error

/-!
# Tokens of a YAML document
-/

namespace StyleUsage.Yaml

/-- A line that tells how to read the document below it. -/
inductive Directive where
  | version (major : Nat)
  | tagPrefix (handle uri : String)
  /-- A directive of another name, which is passed over. -/
  | unknown
  deriving DecidableEq, Repr

/-- A part of a document. Besides what is written there are tokens for what indentation means:
the start of a block sequence or mapping, the end of a block, and a key in front of a value. -/
inductive Token where
  | directive (d : Directive)
  | documentStart
  | documentEnd
  | blockSequenceStart
  | blockMappingStart
  | blockEnd
  | flowSequenceStart
  | flowSequenceEnd
  | flowMappingStart
  | flowMappingEnd
  | blockEntry
  | flowEntry
  | key
  | value
  | aliasTo (name : String)
  | anchor (name : String)
  | tag (handle : Option String) (suffix : String)
  | scalar (text : String) (plain : Bool)
  | streamEnd
  deriving DecidableEq, Repr, Inhabited

/-- The tokens of a text, up to its end or up to a place where it is not made of tokens. -/
structure Tokens where
  ready : List Token
  /-- What is wrong after them. -/
  fault : Option YamlError
  deriving Repr, Inhabited

end StyleUsage.Yaml
