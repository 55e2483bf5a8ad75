import StyleUsage.Text.Digits

/-!
# Texts

A separator cuts a text into parts: one more than there are separators, so no part of the text is
lost. Blank characters are dropped at the ends of names, references and settings. Text files are
read with one kind of line end: a carriage return, alone or before a line feed, becomes a line feed.
The bytes of a file are a text if they are UTF-8; else they have a fault at the first position where
no character is encoded.
-/

namespace StyleUsage.Text

def parts (separator : Char) : List Char → List (List Char)
  | [] => [[]]
  | c :: rest =>
    if c = separator then [] :: parts separator rest
    else match parts separator rest with
      | part :: more => (c :: part) :: more
      | [] => [[c]]

/-! ## Blank characters -/

/-- White space at the ends of a text: the controls from tab to carriage return, the separators
U+001C to U+001F, the space, U+0085 and the space separators of Unicode with the line and
paragraph separator. -/
def isBlank (c : Char) : Bool :=
  let n := c.val
  (0x09 ≤ n && n ≤ 0x0D) || (0x1C ≤ n && n ≤ 0x20) || n == 0x85 || n == 0xA0 || n == 0x1680 ||
    (0x2000 ≤ n && n ≤ 0x200A) || n == 0x2028 || n == 0x2029 || n == 0x202F || n == 0x205F ||
    n == 0x3000

def stripEnd (cs : List Char) : List Char :=
  (cs.reverse.dropWhile isBlank).reverse

/-- Drop the blank characters at both ends. -/
def stripChars (cs : List Char) : List Char :=
  stripEnd (cs.dropWhile isBlank)

/-- Drop the blank characters at both ends of a text. -/
def strip (s : String) : String :=
  String.ofList (stripChars s.toList)

/-! ## Line ends -/

/-- Every line end as a single line feed. -/
def unifyLineEnds : List Char → List Char
  | [] => []
  | '\r' :: '\n' :: rest => '\n' :: unifyLineEnds rest
  | '\r' :: rest => '\n' :: unifyLineEnds rest
  | c :: rest => c :: unifyLineEnds rest

/-- The text of a file as its readers see it. -/
def ofFile (content : String) : String :=
  String.ofList (unifyLineEnds content.toList)

/-! ## Bytes -/

/-- Why no character is encoded at a position. -/
inductive CodingProblem where
  | start
  | continuation
  | ending
  deriving DecidableEq, Repr

def CodingProblem.name : CodingProblem → String
  | .start => "invalid start byte"
  | .continuation => "invalid continuation byte"
  | .ending => "unexpected end of data"

/-- Bytes that encode no character, with the position of the first of them. -/
structure CodingFault where
  position : Nat
  bytes : List UInt8
  problem : CodingProblem
  deriving DecidableEq, Repr

def CodingFault.place (f : CodingFault) : String :=
  match f.bytes with
  | [b] =>
    "byte 0x" ++ String.ofList (hexDigits b.toNat 2) ++ " in position " ++ toString f.position
  | bytes =>
    "bytes in position " ++ toString f.position ++ "-" ++ toString (f.position + bytes.length - 1)

/-- The wording of a fault. -/
def CodingFault.message (f : CodingFault) : String :=
  "'utf-8' codec can't decode " ++ f.place ++ ": " ++ f.problem.name

/-- The least and the greatest of the bytes that may stand behind a first byte, one after another,
if a character may start with that. -/
def behind? (first : UInt8) : Option (List (UInt8 × UInt8)) :=
  let any : UInt8 × UInt8 := (0x80, 0xBF)
  if first < 0x80 then some []
  else if first < 0xC2 then none
  else if first < 0xE0 then some [any]
  -- shorter encodings, surrogates and numbers above the last character are left out
  else if first = 0xE0 then some [(0xA0, 0xBF), any]
  else if first = 0xED then some [(0x80, 0x9F), any]
  else if first < 0xF0 then some [any, any]
  else if first = 0xF0 then some [(0x90, 0xBF), any, any]
  else if first < 0xF4 then some [any, any, any]
  else if first = 0xF4 then some [(0x80, 0x8F), any, any]
  else none

/-- The bytes at the start that stand in ranges one after another. -/
def fitting : List (UInt8 × UInt8) → List UInt8 → List UInt8
  | (least, greatest) :: ranges, b :: bytes =>
    if least ≤ b && b ≤ greatest then b :: fitting ranges bytes else []
  | _, _ => []

/-- What is wrong with bytes from a position on that do not start with a character. -/
def faultAt (position : Nat) : List UInt8 → CodingFault
  | [] => ⟨position, [], .ending⟩
  | first :: rest =>
    match behind? first with
    | none => ⟨position, [first], .start⟩
    | some ranges =>
      let fit := fitting ranges rest
      ⟨position, first :: fit, if fit.length = rest.length then .ending else .continuation⟩

/-- The first position from a given one on at which no character is encoded. -/
def undecoded? (content : ByteArray) : Nat → Nat → Option Nat
  | 0, _ => none
  | fuel + 1, position =>
    if position < content.size then
      match content.utf8DecodeChar? position with
      | some c => undecoded? content fuel (position + c.utf8Size)
      | none => some position
    else none

/-- The text of a file from its bytes. -/
def ofBytes (content : ByteArray) : Except CodingFault String :=
  match String.fromUTF8? content with
  | some s => .ok (ofFile s)
  | none =>
    let position := (undecoded? content content.size 0).getD content.size
    .error (faultAt position (content.data.toList.drop position))

end StyleUsage.Text
