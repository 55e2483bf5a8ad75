import StyleUsage.Text.Digits
import StyleUsage.Yaml.Cursor
import StyleUsage.Yaml.Error

/-!
# Tags and directives as they are written
-/

namespace StyleUsage.Yaml

/-- Whether a character may stand in the identifier of a tag. -/
def isUriChar (c : Char) : Bool := c.isAlphanum || "-;/?:@&=+$,_.!~*'()[]%".contains c

/-- A byte that is written as two hexadecimal digits. -/
def escapedByte? (a b : Char) : Option UInt8 :=
  match Text.hexValue? a, Text.hexValue? b with
  | some m, some n => some (m * 16 + n).toUInt8
  | _, _ => none

/-- The bytes that a part of an identifier stands for; a percent sign and two digits stand for one
byte. -/
def uriBytes : List Char → Option (List UInt8)
  | [] => some []
  | '%' :: a :: b :: rest => do
    let byte ← escapedByte? a b
    let bytes ← uriBytes rest
    some (byte :: bytes)
  | c :: rest =>
    if c = '%' then none
    else (uriBytes rest).map fun bytes => (String.singleton c).toUTF8.toList ++ bytes

def scanUri (c : Cursor) : Except YamlError (String × Cursor) :=
  let (chars, c) := c.takeWhile isUriChar
  if chars.isEmpty then .error (.badToken "expected URI")
  else
    match (uriBytes chars).bind fun bytes => String.fromUTF8? bytes.toByteArray with
    | some text => .ok (text, c)
    | none => .error (.badToken "expected URI escape sequence")

/-- The handle of a tag: `!`, `!!` or a name between exclamation marks. -/
def scanHandle (c : Cursor) : Except YamlError (String × Cursor) :=
  if c.peek != '!' then .error (.badToken "expected '!'")
  else if c.ahead 1 == ' ' then .ok ("!", c.next)
  else
    let (name, after) := c.next.takeWhile isNameChar
    if after.peek == '!' then .ok (String.ofList ('!' :: name ++ ['!']), after.next)
    else .error (.badToken "expected '!'")

/-- Whether an exclamation mark follows before the next space. -/
def hasSecondMark (c : Cursor) : Bool :=
  (c.rest.takeWhile fun ch => !isSpaceOrEnd ch).contains '!'

/-- A tag: its handle, if it has one, and the rest of it. -/
def scanTag (c : Cursor) : Except YamlError ((Option String × String) × Cursor) := do
  let (tag, c) ←
    if c.ahead 1 == '<' then do
      let (uri, c) ← scanUri (c.skip 2)
      if c.peek == '>' then .ok ((none, uri), c.next)
      else .error (.badToken "expected '>'")
    else if isGapOrEnd (c.ahead 1) then .ok ((none, "!"), c.next)
    else if hasSecondMark c.next then do
      let (handle, c) ← scanHandle c
      let (uri, c) ← scanUri c
      .ok ((some handle, uri), c)
    else do
      let (uri, c) ← scanUri c.next
      .ok ((some "!", uri), c)
  if isSpaceOrEnd c.peek then .ok (tag, c) else .error (.badToken "expected ' '")

/-- The name after the mark of an anchor or an alias. -/
def scanName (c : Cursor) : Except YamlError (String × Cursor) :=
  let (name, c) := c.next.takeWhile isNameChar
  if name.isEmpty then .error (.badToken "expected alphabetic or numeric character")
  else if isGapOrEnd c.peek || "?:,]\x7d%@\x60".contains c.peek then .ok (String.ofList name, c)
  else .error (.badToken "expected alphabetic or numeric character")

end StyleUsage.Yaml
