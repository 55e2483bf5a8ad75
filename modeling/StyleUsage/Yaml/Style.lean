import StyleUsage.Yaml.Cursor
import StyleUsage.Yaml.Outline

/-!
# The styles of scalars

A scalar is written plain if it then reads back with the same tag, else between single quotes, and
between double quotes if it holds characters that need escapes. Bytes are written as a block of
lines.
-/

namespace StyleUsage.Yaml

/-- How a scalar is written. -/
inductive ScalarStyle where
  | plain
  | singleQuoted
  | doubleQuoted
  | literal
  deriving DecidableEq, Repr

/-- Where a scalar stands. -/
structure ScalarPlace where
  inFlow : Bool
  simpleKey : Bool
  deriving DecidableEq, Repr

/-- Whether a character is a line feed or one of the line ends of Unicode. -/
def isWrittenBreak (c : Char) : Bool :=
  c == '\n' || c == '\x85' || c == '\u2028' || c == '\u2029'

/-- Whether a character stands for itself outside double quotes. -/
def isDirect (c : Char) : Bool := c == '\n' || (' ' ≤ c && c ≤ '~')

def needsEscapes (cs : List Char) : Bool := cs.any fun c => !isDirect c

/-- Whether a text has a line end. -/
def hasBreak (cs : List Char) : Bool := cs.any isWrittenBreak

/-- Whether a space comes directly before a line end somewhere. -/
def hasSpaceThenBreak : List Char → Bool
  | ' ' :: c :: rest => isWrittenBreak c || hasSpaceThenBreak (c :: rest)
  | _ :: rest => hasSpaceThenBreak rest
  | [] => false

/-- Whether a line end comes directly before a space somewhere. -/
def hasBreakThenSpace : List Char → Bool
  | b :: c :: rest => (isWrittenBreak b && c == ' ') || hasBreakThenSpace (c :: rest)
  | _ => false

/-- Whether a text has a space or a line end at one of its ends. -/
def hasOuterGap (cs : List Char) : Bool :=
  let isGap (c : Char) : Bool := c == ' ' || isWrittenBreak c
  cs.head?.any isGap || cs.getLast?.any isGap

/-- Whether a text starts like a mark between documents. -/
def startsLikeMark (cs : List Char) : Bool :=
  ['-', '-', '-'].isPrefixOf cs || ['.', '.', '.'].isPrefixOf cs

/-- Whether a gap or the end comes after the first character. -/
def gapFollows : List Char → Bool
  | _ :: c :: _ => isGapOrEnd c
  | _ => true

/-- Whether a text starts with a mark that plain scalars may not start with. -/
def startsWithMark (inFlow : Bool) (cs : List Char) : Bool :=
  match cs with
  | [] => false
  | c :: _ =>
    "#,[]\x7b\x7d&*!|>'\"%@\x60".contains c ||
      ((c == '?' || c == ':') && (inFlow || gapFollows cs)) ||
      (c == '-' && gapFollows cs)

/-- Whether a mark that ends a plain scalar stands after the first character, given that one. -/
def holdsMark (inFlow : Bool) : List Char → Bool
  | before :: c :: rest =>
    (inFlow && ",?[]\x7b\x7d".contains c) ||
      (c == ':' && (inFlow || gapFollows (c :: rest))) ||
      (c == '#' && isGapOrEnd before) ||
      holdsMark inFlow (c :: rest)
  | _ => false

/-- Whether a text may be written plain. -/
def allowsPlain (inFlow : Bool) (cs : List Char) : Bool :=
  !(hasOuterGap cs || needsEscapes cs || hasBreak cs || startsLikeMark cs ||
    startsWithMark inFlow cs || holdsMark inFlow cs)

/-- Whether a text may be written between single quotes. -/
def allowsSingleQuotes (cs : List Char) : Bool :=
  !(needsEscapes cs || hasSpaceThenBreak cs || hasBreakThenSpace cs)

def styleOf (place : ScalarPlace) (s : Scalar) : ScalarStyle :=
  let cs := s.text.toList
  if s.tag == .binary && !place.inFlow && !place.simpleKey && !cs.isEmpty then .literal
  else if resolve s.text == s.tag && allowsPlain place.inFlow cs then .plain
  else if allowsSingleQuotes cs && !(place.simpleKey && hasBreak cs) then .singleQuoted
  else .doubleQuoted

end StyleUsage.Yaml
