import StyleUsage.Collection.Entries
import StyleUsage.Decimal.Double

/-!
# JSON values

Whole numbers are unbounded and are never the same as numbers with a fraction part. The fields of
an object keep the order in which they were written; `Json.sortKeys` brings them into the order
of code points at every depth, so two values are the same up to the order of fields when their
sorted forms are equal.
-/

namespace StyleUsage

open Decimal (Double)

inductive Json where
  | null
  | bool (b : Bool)
  | int (i : Int)
  | float (x : Double)
  | str (s : String)
  | arr (items : List Json)
  | obj (fields : List (String × Json))
  deriving Inhabited

namespace Json

/-- The fields in the order of their keys. -/
def sortFields (fields : List (String × Json)) : List (String × Json) :=
  fields.mergeSort fun p q => decide (p.1 ≤ q.1)

mutual

/-- The value with the fields of every object in the order of their keys. -/
def sortKeys : Json → Json
  | .arr items => .arr (sortKeysList items)
  | .obj fields => .obj (sortFields (sortKeysFields fields))
  | .null => .null
  | .bool b => .bool b
  | .int i => .int i
  | .float x => .float x
  | .str s => .str s
termination_by structural j => j

def sortKeysList : List Json → List Json
  | [] => []
  | j :: rest => j.sortKeys :: sortKeysList rest
termination_by structural js => js

def sortKeysFields : List (String × Json) → List (String × Json)
  | [] => []
  | (k, v) :: rest => (k, v.sortKeys) :: sortKeysFields rest
termination_by structural fs => fs

end

def field? (j : Json) (key : String) : Option Json :=
  match j with
  | .obj fields => Entries.get? fields key
  | _ => none

def str? : Json → Option String
  | .str s => some s
  | _ => none

def obj? : Json → Option (List (String × Json))
  | .obj fields => some fields
  | _ => none

def ofStrings (items : List String) : Json := .arr (items.map .str)

end Json

end StyleUsage
