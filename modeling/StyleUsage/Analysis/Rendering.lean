import StyleUsage.Datum.Writing
import StyleUsage.Json.Indented

/-!
# Rendering

A summary is rendered as JSON or as YAML, in each case with sorted keys. JSON has a line for every
item, or no blanks at all if nothing is to be indented, and a line feed at the end. YAML documents
are written by a writer that comes from elsewhere.
-/

namespace StyleUsage

/-- The forms in which a summary is rendered. -/
inductive OutputForm where
  | json
  | yaml
  deriving DecidableEq, Repr, Inhabited

def OutputForm.name : OutputForm → String
  | .json => "json"
  | .yaml => "yaml"

def OutputForm.all : List OutputForm := [.json, .yaml]

def OutputForm.ofName? (name : String) : Option OutputForm :=
  OutputForm.all.find? fun f => f.name == name

/-- Render a value. Without a positive indentation JSON is canonical. -/
def render (writeYaml : Datum → Except Datum.WritingError String) (form : OutputForm)
    (indent : Int) (d : Datum) : Except Datum.WritingError String :=
  match form with
  | .yaml => writeYaml d
  | .json => d.sortedJson.map fun j =>
    (if indent ≤ 0 then j.compact else j.indented indent.toNat) ++ "\n"

end StyleUsage
