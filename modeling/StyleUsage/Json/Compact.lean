import StyleUsage.Decimal.Shortest
import StyleUsage.Json.Value

/-!
# Compact and canonical JSON text

The compact form has no blanks. Strings escape the quote, the backslash and the characters below
U+0020, and nothing else. The canonical form is the compact form of the value with sorted keys,
so it does not depend on the order in which fields were written.
-/

namespace StyleUsage.Json

/-- A hexadecimal digit below sixteen, in lower case. -/
def hexDigit (n : Nat) : Char := Nat.digitChar n

/-- How one character is written in a string. -/
def escapeChar (c : Char) : List Char :=
  match c with
  | '"' => ['\\', '"']
  | '\\' => ['\\', '\\']
  | '\n' => ['\\', 'n']
  | '\r' => ['\\', 'r']
  | '\t' => ['\\', 't']
  | '\x08' => ['\\', 'b']
  | '\x0c' => ['\\', 'f']
  | c =>
    if c.toNat < 0x20 then
      ['\\', 'u', '0', '0', hexDigit (c.toNat / 16), hexDigit (c.toNat % 16)]
    else [c]

def stringText (s : String) : List Char :=
  '"' :: s.toList.flatMap escapeChar ++ ['"']

/-- A whole number in decimal. -/
def intText (i : Int) : List Char :=
  if i < 0 then '-' :: Nat.toDigits 10 i.natAbs else Nat.toDigits 10 i.natAbs

/-- A number with a fraction part: the shortest text that reads back. -/
def floatLayout : Decimal.Layout :=
  { Decimal.Layout.plain with infinity := "Infinity", nan := "NaN" }

/-- The text of a number with a fraction part. -/
def floatText (x : Decimal.Double) : List Char := (floatLayout.write x).toList

mutual

/-- The text without blanks. -/
def compactChars : Json → List Char
  | .null => ['n', 'u', 'l', 'l']
  | .bool true => ['t', 'r', 'u', 'e']
  | .bool false => ['f', 'a', 'l', 's', 'e']
  | .int i => intText i
  | .float x => floatText x
  | .str s => stringText s
  | .arr [] => ['[', ']']
  | .arr (j :: rest) => '[' :: compactChars j ++ compactItems rest
  | .obj [] => ['{', '}']
  | .obj ((k, v) :: rest) => '{' :: stringText k ++ ':' :: compactChars v ++ compactFields rest
termination_by structural j => j

def compactItems : List Json → List Char
  | [] => [']']
  | j :: rest => ',' :: compactChars j ++ compactItems rest
termination_by structural js => js

/-- The further fields of an object and its end. -/
def compactFields : List (String × Json) → List Char
  | [] => ['}']
  | (k, v) :: rest => ',' :: stringText k ++ ':' :: compactChars v ++ compactFields rest
termination_by structural fs => fs

end

/-- The text without blanks, fields in their order. -/
def compact (j : Json) : String := String.ofList j.compactChars

/-- The text without blanks with sorted keys, which stands for the value in a digest. -/
def canonical (j : Json) : String := j.sortKeys.compact

end StyleUsage.Json
