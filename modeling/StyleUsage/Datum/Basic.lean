import StyleUsage.Calendar.Moment
import StyleUsage.Json.Value

/-!
# Values of a document

A document holds values of more kinds than JSON has: the keys of a mapping may be any scalars, and
there are bytes, moments, pairs and sets. A value that is written once may stand in several places,
so moments and collections may carry a label: values with one label are one value. A collection may
even stand inside itself. Such a place holds the label alone, and `opened` puts the collection into
it, so that all values are finite trees.
-/

namespace StyleUsage

open Decimal (Double)

/-- A value of a document. -/
inductive Datum where
  | null
  | bool (b : Bool)
  | int (i : Int)
  | float (x : Double)
  | str (s : String)
  /-- Bytes, by their numbers. -/
  | bytes (content : List Nat)
  | moment (label : Option Nat) (m : Moment)
  | list (label : Option Nat) (items : List Datum)
  | pair (first second : Datum)
  | map (label : Option Nat) (entries : List (Datum × Datum))
  /-- A set, its members in the order in which it gives them. -/
  | set (label : Option Nat) (items : List Datum)
  /-- The place of a list or of a mapping inside itself. -/
  | again (label : Nat) (isMap : Bool)
  deriving Inhabited

namespace Datum

mutual

/-- A JSON value as a value of a document. -/
def ofJson : Json → Datum
  | .null => .null
  | .bool b => .bool b
  | .int i => .int i
  | .float x => .float x
  | .str s => .str s
  | .arr items => .list none (ofJsonList items)
  | .obj fields => .map none (ofJsonFields fields)
termination_by structural j => j

/-- The items of a JSON list as values of a document. -/
def ofJsonList : List Json → List Datum
  | [] => []
  | j :: rest => ofJson j :: ofJsonList rest
termination_by structural js => js

/-- The fields of a JSON object as entries of a mapping. -/
def ofJsonFields : List (String × Json) → List (Datum × Datum)
  | [] => []
  | (k, v) :: rest => (.str k, ofJson v) :: ofJsonFields rest
termination_by structural fs => fs

end

/-- A list of texts as a value. -/
def ofStrings (items : List String) : Datum := .list none (items.map .str)

def ofFields (fields : List (String × Datum)) : Datum :=
  .map none (fields.map fun (name, d) => (.str name, d))

/-! ## Places inside a collection -/

mutual

/-- Put a value into every place that holds its label. -/
def fill (label : Nat) (whole : Datum) : Datum → Datum
  | .null => .null
  | .bool b => .bool b
  | .int i => .int i
  | .float x => .float x
  | .str s => .str s
  | .bytes content => .bytes content
  | .moment l m => .moment l m
  | .list l items => .list l (if l = some label then items else fillList label whole items)
  | .pair a b => .pair (fill label whole a) (fill label whole b)
  | .map l entries => .map l (if l = some label then entries else fillEntries label whole entries)
  | .set l items => .set l items
  | .again l isMap => if l = label then whole else .again l isMap
termination_by structural d => d

/-- Put a value into its places in the items of a list. -/
def fillList (label : Nat) (whole : Datum) : List Datum → List Datum
  | [] => []
  | d :: rest => fill label whole d :: fillList label whole rest
termination_by structural ds => ds

/-- Put a value into its places in the entries of a mapping; keys have none. -/
def fillEntries (label : Nat) (whole : Datum) : List (Datum × Datum) → List (Datum × Datum)
  | [] => []
  | (k, v) :: rest => (k, fill label whole v) :: fillEntries label whole rest
termination_by structural es => es

end

/-- A collection with itself in the places inside it, so that its parts are values on their own. -/
def opened (d : Datum) : Datum :=
  match d with
  | .list (some label) items => .list (some label) (fillList label d items)
  | .map (some label) entries => .map (some label) (fillEntries label d entries)
  | d => d

/-! ## Parts -/

def text? : Datum → Option String
  | .str s => some s
  | _ => none

def items? (d : Datum) : Option (List Datum) :=
  match d.opened with
  | .list _ items => some items
  | _ => none

def entries? (d : Datum) : Option (List (Datum × Datum)) :=
  match d.opened with
  | .map _ entries => some entries
  | _ => none

/-- The value under a text key. -/
def lookup? (entries : List (Datum × Datum)) (key : String) : Option Datum :=
  match entries with
  | [] => none
  | (.str k, v) :: rest => if k = key then some v else lookup? rest key
  | _ :: rest => lookup? rest key

/-- The value under a text key, null if there is none. -/
def lookup (entries : List (Datum × Datum)) (key : String) : Datum :=
  (lookup? entries key).getD .null

/-- Whether the value is empty or zero, so that a default takes its place. -/
def isBare : Datum → Bool
  | .null => true
  | .bool b => !b
  | .int i => i == 0
  | .float x => x.isZero
  | .str s => s.isEmpty
  | .bytes content => content.isEmpty
  | .list _ items | .set _ items => items.isEmpty
  | .map _ entries => entries.isEmpty
  | .moment .. | .pair .. | .again .. => false

end Datum

end StyleUsage
