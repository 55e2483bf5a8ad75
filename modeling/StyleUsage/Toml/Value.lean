import StyleUsage.Collection.Entries
import StyleUsage.Decimal.Double
import StyleUsage.Text.Quoted

/-!
# Values of a TOML document
-/

namespace StyleUsage

open Decimal (Double)

/-- A value of a TOML document. -/
inductive Toml where
  | str (s : String)
  | int (i : Int)
  | float (x : Double)
  | bool (b : Bool)
  /-- A date, a time or both, as it is written. -/
  | moment (text : String)
  | array (items : List Toml)
  | table (fields : List (String × Toml))
  deriving Inhabited

def Toml.field? (t : Toml) (name : String) : Option Toml :=
  match t with
  | .table fields => Entries.get? fields name
  | _ => none

/-- Why a text is no TOML document. -/
inductive TomlError where
  | badStatement
  | badKey
  | expectedEquals
  | badValue
  | badDate
  | badEscape
  | controlCharacter (c : Char)
  | unterminatedText
  | unclosedArray
  | unclosedTable
  | unclosedHeader
  /-- A table that is declared where it was declared before or where a value stands. -/
  | repeatedTable (key : List String)
  /-- A key that has a value already, or that leads into one. -/
  | repeatedKey (key : List String)
  | expectedLineEnd
  deriving DecidableEq, Repr

/-- The wording of a fault. -/
def TomlError.message : TomlError → String
  | .badStatement => "Invalid statement"
  | .badKey => "Invalid initial character for a key part"
  | .expectedEquals => "Expected '=' after a key in a key/value pair"
  | .badValue => "Invalid value"
  | .badDate => "Invalid date or datetime"
  | .badEscape => "Invalid escape in a string"
  | .controlCharacter c => "Illegal character " ++ Text.quoted (String.singleton c)
  | .unterminatedText => "Unterminated string"
  | .unclosedArray => "Unclosed array"
  | .unclosedTable => "Unclosed inline table"
  | .unclosedHeader => "Expected ']' at the end of a table declaration"
  | .repeatedTable key => "Cannot declare " ++ ".".intercalate key ++ " twice"
  | .repeatedKey key => "Cannot overwrite " ++ ".".intercalate key
  | .expectedLineEnd => "Expected newline or end of document after a statement"

end StyleUsage
