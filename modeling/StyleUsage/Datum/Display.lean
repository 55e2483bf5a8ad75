import StyleUsage.Datum.Basic
import StyleUsage.Json.Compact
import StyleUsage.Text.Quoted

/-!
# The texts of values

Each value has a display text, which stands for it where a text is needed, and an inner text, which
is shown inside a list or a mapping; they differ only for texts and moments. A collection inside
itself is shown by three dots.
-/

namespace StyleUsage.Datum

/-- Texts with a separator between them. -/
def joined : List (List Char) → List Char
  | [] => []
  | [x] => x
  | x :: rest => x ++ ',' :: ' ' :: joined rest

def byteText (quote : Char) (n : Nat) : List Char :=
  if 0x20 ≤ n ∧ n < 0x7F then Text.quotedChar quote (Char.ofNat n)
  else if n = 9 ∨ n = 10 ∨ n = 13 then Text.quotedChar quote (Char.ofNat n)
  else '\\' :: 'x' :: Text.hexDigits n 2

/-- Bytes between quotes; printable ASCII characters are shown as they are. -/
def bytesText (content : List Nat) : List Char :=
  let quote := Text.quoteFor (content.map Char.ofNat)
  'b' :: quote :: content.flatMap (byteText quote) ++ [quote]

/-- Whether a value carries one of some labels. -/
def isOneOf (label : Option Nat) (labels : List Nat) : Bool := label.any labels.contains

mutual

/-- The text of a value inside a list or a mapping; `around` are the labels of the collections
around it. -/
def innerChars (around : List Nat) : Datum → List Char
  | .null => "None".toList
  | .bool true => "True".toList
  | .bool false => "False".toList
  | .int i => Json.intText i
  | .float x => x.text.toList
  | .str s => (Text.quoted s).toList
  | .bytes content => bytesText content
  | .moment _ m => m.inner.toList
  | .list label items =>
    if isOneOf label around then "[...]".toList
    else '[' :: joined (innerList (label.toList ++ around) items) ++ [']']
  | .pair a b => '(' :: innerChars around a ++ ',' :: ' ' :: innerChars around b ++ [')']
  | .map label entries =>
    if isOneOf label around then "\x7b...\x7d".toList
    else '{' :: joined (innerEntries (label.toList ++ around) entries) ++ ['}']
  | .set _ [] => "set()".toList
  | .set _ (d :: rest) => '{' :: joined (innerChars around d :: innerList around rest) ++ ['}']
  | .again _ isMap => (if isMap then "\x7b...\x7d" else "[...]").toList
termination_by structural d => d

/-- The texts of the items of a list. -/
def innerList (around : List Nat) : List Datum → List (List Char)
  | [] => []
  | d :: rest => innerChars around d :: innerList around rest
termination_by structural ds => ds

/-- The texts of the entries of a mapping. -/
def innerEntries (around : List Nat) : List (Datum × Datum) → List (List Char)
  | [] => []
  | (k, v) :: rest =>
    (innerChars around k ++ ':' :: ' ' :: innerChars around v) :: innerEntries around rest
termination_by structural es => es

end

/-- The text that stands for a value. -/
def display : Datum → String
  | .str s => s
  | .moment _ m => m.display
  | d => String.ofList (innerChars [] d)

end StyleUsage.Datum
