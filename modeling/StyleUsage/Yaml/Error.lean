import StyleUsage.Text.Quoted

/-!
# Faults of a YAML document
-/

namespace StyleUsage.Yaml

/-- Why a text is no YAML document of plain values. -/
inductive YamlError where
  /-- A character that may not stand in a document. -/
  | forbiddenCharacter (c : Char)
  /-- A text that is not made of tokens, for the given reason. -/
  | badToken (reason : String)
  /-- Tokens that do not form a document, for the given reason. -/
  | badStructure (reason : String)
  | undefinedAlias (name : String)
  | repeatedAnchor (name : String)
  | severalDocuments
  /-- A value that its tag does not allow, for the given reason. -/
  | badValue (reason : String)
  /-- A text, in small letters, that is no truth value where one is asked for. -/
  | unknownTruth (word : String)
  /-- A text that is no date where one is asked for. -/
  | noMoment
  /-- A text without digits where a number is asked for. -/
  | emptyNumber
  /-- An escaped code that is far above that of every character. -/
  | hugeCode
  /-- A number or a date with a part out of its range. -/
  | outOfRange (reason : String)
  deriving DecidableEq, Repr

/-- Whether the text as a whole is refused; otherwise a single value of it is out of range. -/
def YamlError.refusesText : YamlError → Bool
  | .outOfRange _ | .unknownTruth _ | .noMoment | .emptyNumber | .hugeCode => false
  | _ => true

/-- The wording of a fault. -/
def YamlError.message : YamlError → String
  | .forbiddenCharacter _ => "special characters are not allowed"
  | .badToken reason => reason
  | .badStructure reason => reason
  | .undefinedAlias name => "found undefined alias " ++ name
  | .repeatedAnchor name => "found duplicate anchor " ++ name
  | .severalDocuments => "expected a single document in the stream"
  | .badValue reason => reason
  | .unknownTruth word => Text.quoted word
  | .noMoment => "'NoneType' object has no attribute 'groupdict'"
  | .emptyNumber => "string index out of range"
  | .hugeCode => "Python int too large to convert to C int"
  | .outOfRange reason => reason

end StyleUsage.Yaml
