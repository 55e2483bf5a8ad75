import StyleUsage.Collection.Sorting
import StyleUsage.Datum.Display
import StyleUsage.Datum.Key

/-!
# Values of a document as JSON

A value is written as JSON with the entries of every mapping in the order of their keys, and a key
that is no text becomes one after that. Not every value can be written: JSON has no bytes, moments
or sets, its keys are not in an order if they are of several kinds, and a collection that stands
inside itself has no end.
-/

namespace StyleUsage.Datum

/-- Entries in the order of their keys. Keys that are all texts are in the order of code points. -/
def sortEntries {α : Type} (entries : List (Datum × α)) : Except Incomparable (List (Datum × α)) :=
  match entries.mapM fun (k, v) => k.text?.map fun name => (name, v) with
  | some fields =>
    let sorted := fields.mergeSort fun p q => decide (p.1 ≤ q.1)
    .ok (sorted.map fun (name, v) => (.str name, v))
  | none => Sorting.sort (fun p q => isLess p.1 q.1) entries

/-- Why a value cannot be written as JSON. -/
inductive WritingError where
  /-- A collection stands inside itself. -/
  | endless
  /-- A value that JSON has not, by the name of its kind. -/
  | notJson (kind : String)
  /-- A key that cannot become a text, by the full name of its kind. -/
  | badKey (kind : String)
  | unsortable (cause : Incomparable)
  /-- A writer of another form refuses a value. -/
  | refused (message : String)
  deriving DecidableEq, Repr

/-- The wording of a cause. -/
def WritingError.message : WritingError → String
  | .endless => "Circular reference detected"
  | .notJson kind => "Object of type " ++ kind ++ " is not JSON serializable"
  | .badKey kind => "keys must be str, int, float, bool or None, not " ++ kind
  | .unsortable cause => cause.message
  | .refused message => message

/-- The text of a key as the name of a JSON field. -/
def fieldName : Datum → Except WritingError String
  | .str s => .ok s
  | .null => .ok "null"
  | .bool true => .ok "true"
  | .bool false => .ok "false"
  | .float x => .ok (String.ofList (Json.floatText x))
  | .int i => .ok (String.ofList (Json.intText i))
  | d => .error (.badKey d.kindName)

/-- The fields of an object from its entries, which are put in order first. -/
def fieldsOf (entries : List (Datum × Except WritingError Json)) :
    Except WritingError (List (String × Json)) := do
  let sorted ← (sortEntries entries).mapError .unsortable
  sorted.mapM fun (k, v) => do
    let name ← k.fieldName
    let j ← v
    .ok (name, j)

mutual

/-- The JSON value of a value, with sorted keys; `around` are the labels of the collections around
it. -/
def jsonWithin (around : List Nat) : Datum → Except WritingError Json
  | .null => .ok .null
  | .bool b => .ok (.bool b)
  | .int i => .ok (.int i)
  | .float x => .ok (.float x)
  | .str s => .ok (.str s)
  | .list label items =>
    if isOneOf label around then .error .endless
    else (jsonItems (label.toList ++ around) items).map .arr
  | .pair a b => do
    let first ← jsonWithin around a
    let second ← jsonWithin around b
    .ok (.arr [first, second])
  | .map label entries =>
    if isOneOf label around then .error .endless
    else (fieldsOf (jsonEntries (label.toList ++ around) entries)).map .obj
  | .again .. => .error .endless
  | .bytes _ => .error (.notJson "bytes")
  | .moment _ m => .error (.notJson (if m.time.isSome then "datetime" else "date"))
  | .set .. => .error (.notJson "set")
termination_by structural d => d

def jsonItems (around : List Nat) : List Datum → Except WritingError (List Json)
  | [] => .ok []
  | d :: rest => do
    let j ← jsonWithin around d
    let js ← jsonItems around rest
    .ok (j :: js)
termination_by structural ds => ds

/-- The JSON values of the entries of a mapping, each with its key. -/
def jsonEntries (around : List Nat) :
    List (Datum × Datum) → List (Datum × Except WritingError Json)
  | [] => []
  | (k, v) :: rest => (k, jsonWithin around v) :: jsonEntries around rest
termination_by structural es => es

end

/-- The JSON value of a value, with sorted keys. -/
def sortedJson (d : Datum) : Except WritingError Json := jsonWithin [] d

/-- The canonical JSON text of a value, which stands for it in a digest. -/
def canonical (d : Datum) : Except WritingError String := d.sortedJson.map Json.compact

mutual

/-- A JSON value that shows a value whatever its kind: what JSON has not is shown by its text. -/
def shown : Datum → Json
  | .null => .null
  | .bool b => .bool b
  | .int i => .int i
  | .float x => .float x
  | .str s => .str s
  | .list _ items => .arr (shownItems items)
  | .pair a b => .arr [shown a, shown b]
  | .map _ entries => .obj (shownFields entries)
  | d => .str d.display
termination_by structural d => d

/-- The items of a list, each shown. -/
def shownItems : List Datum → List Json
  | [] => []
  | d :: rest => shown d :: shownItems rest
termination_by structural ds => ds

/-- The entries of a mapping, each shown. -/
def shownFields : List (Datum × Datum) → List (String × Json)
  | [] => []
  | (k, v) :: rest => (k.fieldName.toOption.getD k.display, shown v) :: shownFields rest
termination_by structural es => es

end

end StyleUsage.Datum
