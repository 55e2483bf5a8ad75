import StyleUsage.File.Path
import StyleUsage.Json.Reader
import StyleUsage.Text.Basic
import StyleUsage.Walk.Reader
import StyleUsage.Yaml.Error

/-!
# Walk scripts in files

A file whose name ends in `.json` holds JSON text, any other file a YAML document, which is read by
a reader that comes from elsewhere. A template without an identifier is identified by the path of
the file.
-/

namespace StyleUsage

/-- Why the text of a file is not a document. -/
inductive DocumentError where
  | json (cause : Json.ReadError)
  | yaml (cause : Yaml.YamlError)
  deriving Repr

def DocumentError.message : DocumentError → String
  | .json cause => cause.message
  | .yaml cause => cause.message

/-- Why a file holds no walk script. -/
inductive WalkFileError where
  /-- The text of the file cannot be read as a document. -/
  | unreadable (path : Path) (cause : DocumentError)
  /-- A text of the document could be written nowhere. -/
  | loneHalf (cause : Json.ReadError)
  /-- A single value of the document is out of range. -/
  | badValue (cause : Yaml.YamlError)
  | malformed (cause : WalkError)

/-- The wording of a cause without the details of a reader. -/
def WalkFileError.headline : WalkFileError → String
  | .unreadable path _ => "Failed to parse walk script " ++ path.text
  | .loneHalf cause => cause.message
  | .badValue cause => cause.message
  | .malformed cause => cause.message

/-- The wording of a cause. -/
def WalkFileError.message (e : WalkFileError) : String :=
  match e with
  | .unreadable _ cause => e.headline ++ ": " ++ cause.message
  | _ => e.headline

namespace WalkScript

/-- Whether a file holds JSON text, by its name. -/
def isJsonFile (path : Path) : Bool :=
  path.suffix.toList.map Char.toLower == ".json".toList

variable (readYaml : String → Except Yaml.YamlError Datum)

def document (path : Path) (text : String) : Except WalkFileError Datum :=
  if isJsonFile path then
    match Json.read text with
    | .ok j => .ok (.ofJson j)
    | .error e => .error (if e.cause = .loneHalf then .loneHalf e else .unreadable path (.json e))
  else
    match readYaml text with
    | .ok d => .ok d
    | .error e => .error (if e.refusesText then .unreadable path (.yaml e) else .badValue e)

/-- The walk script that the text of a file holds. -/
def ofText (path : Path) (text : String) : Except WalkFileError WalkScript := do
  let d ← document readYaml path text
  (read path.text d).mapError .malformed

end WalkScript

end StyleUsage
