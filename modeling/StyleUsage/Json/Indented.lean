import StyleUsage.Json.Compact
import StyleUsage.Text.Digits

/-!
# Indented JSON text

Each item and each field stands on a line of its own, indented by a fixed number of spaces for
every level. A list or an object without content stays on its line.
-/

namespace StyleUsage.Json

def lineStart (width depth : Nat) : List Char :=
  '\n' :: List.replicate (width * depth) ' '

mutual

/-- The text of a value that stands at a depth. -/
def indentedChars (width depth : Nat) : Json → List Char
  | .arr [] => ['[', ']']
  | .arr (j :: rest) =>
    '[' :: lineStart width (depth + 1) ++ indentedChars width (depth + 1) j ++
      indentedItems width depth rest
  | .obj [] => ['{', '}']
  | .obj ((k, v) :: rest) =>
    '{' :: lineStart width (depth + 1) ++ stringText k ++ ':' :: ' ' ::
      indentedChars width (depth + 1) v ++ indentedFields width depth rest
  | .null => ['n', 'u', 'l', 'l']
  | .bool true => ['t', 'r', 'u', 'e']
  | .bool false => ['f', 'a', 'l', 's', 'e']
  | .int i => intText i
  | .float x => floatText x
  | .str s => stringText s
termination_by structural j => j

def indentedItems (width depth : Nat) : List Json → List Char
  | [] => lineStart width depth ++ [']']
  | j :: rest =>
    ',' :: lineStart width (depth + 1) ++ indentedChars width (depth + 1) j ++
      indentedItems width depth rest
termination_by structural js => js

/-- The further fields of an object and its end. -/
def indentedFields (width depth : Nat) : List (String × Json) → List Char
  | [] => lineStart width depth ++ ['}']
  | (k, v) :: rest =>
    ',' :: lineStart width (depth + 1) ++ stringText k ++ ':' :: ' ' ::
      indentedChars width (depth + 1) v ++ indentedFields width depth rest
termination_by structural fs => fs

end

/-- The indented text of a value, fields in their order. -/
def indented (width : Nat) (j : Json) : String :=
  String.ofList (indentedChars width 0 j)

def unitEscape (n : Nat) : List Char := '\\' :: 'u' :: Text.hexDigits n 4

/-- A character outside printable ASCII as one escape, or as two for the halves of a pair. -/
def asciiEscape (c : Char) : List Char :=
  let n := c.toNat
  if n < 0x10000 then unitEscape n
  else unitEscape (0xD800 + (n - 0x10000) / 0x400) ++ unitEscape (0xDC00 + (n - 0x10000) % 0x400)

/-- The indented text of a value in ASCII. Outside texts there are no other characters, and line
feeds are between the parts of a value. -/
def indentedAscii (width : Nat) (j : Json) : String :=
  String.ofList ((indentedChars width 0 j).flatMap fun c =>
    if c == '\n' || (' ' ≤ c && c ≤ '~') then [c] else asciiEscape c)

end StyleUsage.Json
