import StyleUsage.Text.Basic
import StyleUsage.Text.Quoted
import StyleUsage.Yaml.Page
import StyleUsage.Yaml.Style

/-!
# Scalars as they are written

A scalar may be folded at single spaces, unless it is a key on one line with its value. Between
double quotes a fold is marked by a backslash, and each character outside ASCII is escaped.
-/

namespace StyleUsage.Yaml

/-- A stretch of equal treatment in a text: spaces, line ends or other characters. -/
inductive Stretch where
  | spaces (count : Nat)
  | breaks (cs : List Char)
  | word (cs : List Char)
  deriving DecidableEq, Repr

def Stretch.push (c : Char) : List Stretch → List Stretch
  | .spaces n :: rest =>
    if c == ' ' then .spaces (n + 1) :: rest
    else if isWrittenBreak c then .breaks [c] :: .spaces n :: rest
    else .word [c] :: .spaces n :: rest
  | .breaks cs :: rest =>
    if c == ' ' then .spaces 1 :: .breaks cs :: rest
    else if isWrittenBreak c then .breaks (c :: cs) :: rest
    else .word [c] :: .breaks cs :: rest
  | .word cs :: rest =>
    if c == ' ' then .spaces 1 :: .word cs :: rest
    else if isWrittenBreak c then .breaks [c] :: .word cs :: rest
    else .word (c :: cs) :: rest
  | [] =>
    if c == ' ' then [.spaces 1] else if isWrittenBreak c then [.breaks [c]] else [.word [c]]

def stretches (cs : List Char) : List Stretch := cs.foldr Stretch.push []

namespace Page

def putPlain (foldable : Bool) (column : Nat) : List Stretch → Page → Page
  | [], p => p
  | .spaces n :: rest, p =>
    let p := if n == 1 && p.isFull && foldable then p.fold column else p.put (.replicate n ' ')
    putPlain foldable column rest p
  | .breaks cs :: rest, p => putPlain foldable column rest (p.put cs)
  | .word cs :: rest, p => putPlain foldable column rest (p.put cs)

def plain (p : Page) (foldable : Bool) (column : Nat) (cs : List Char) : Page :=
  if cs.isEmpty then p
  else
    let p := if p.spaced then p else p.put [' ']
    putPlain foldable column (stretches cs) { p with spaced := false, indenting := false }

/-- Write the line ends of a scalar between single quotes. The first line feed of a stretch is
doubled, since reading takes a single one for a space. -/
def putBreaks (p : Page) (column : Nat) (cs : List Char) : Page :=
  let p := if cs.head? == some '\n' then p.newLine else p
  (cs.foldl (fun p _ => p.newLine) p).toColumn column

/-- Write the stretches of a scalar between single quotes; `first` tells whether none is written
so far. -/
def putSingleQuoted (foldable : Bool) (column : Nat) (first : Bool) : List Stretch → Page → Page
  | [], p => p
  | .spaces n :: rest, p =>
    let p :=
      if n == 1 && p.isFull && foldable && !first && !rest.isEmpty then p.toColumn column
      else p.put (.replicate n ' ')
    putSingleQuoted foldable column false rest p
  | .breaks cs :: rest, p => putSingleQuoted foldable column false rest (p.putBreaks column cs)
  | .word cs :: rest, p =>
    let doubled := cs.flatMap fun c => if c == '\'' then ['\'', '\''] else [c]
    putSingleQuoted foldable column false rest (p.put doubled)

def singleQuoted (p : Page) (foldable : Bool) (column : Nat) (cs : List Char) : Page :=
  (putSingleQuoted foldable column true (stretches cs) (p.apart '\'')).mark '\''

def shortEscape? : Char → Option Char
  | '\x00' => some '0'
  | '\x07' => some 'a'
  | '\x08' => some 'b'
  | '\t' => some 't'
  | '\n' => some 'n'
  | '\x0b' => some 'v'
  | '\x0c' => some 'f'
  | '\r' => some 'r'
  | '\x1b' => some 'e'
  | '"' => some '"'
  | '\\' => some '\\'
  | '\x85' => some 'N'
  | '\xa0' => some '_'
  | '\u2028' => some 'L'
  | '\u2029' => some 'P'
  | _ => none

/-- A number in base sixteen with at least `width` digits, in capital letters. -/
def capitalHex (n width : Nat) : List Char := (Text.hexDigits n width).map Char.toUpper

def escape (c : Char) : List Char :=
  match shortEscape? c with
  | some letter => ['\\', letter]
  | none =>
    let n := c.toNat
    if n < 0x100 then '\\' :: 'x' :: capitalHex n 2
    else if n < 0x10000 then '\\' :: 'u' :: capitalHex n 4
    else '\\' :: 'U' :: capitalHex n 8

def isEscaped (c : Char) : Bool := c == '"' || c == '\\' || !(' ' ≤ c && c ≤ '~')

/-- Write the characters of a scalar between double quotes; `held` are those that are read but
not yet written, the last one first, and `first` tells whether none is read so far. -/
def putDoubleQuoted (foldable : Bool) (column : Nat) (first : Bool) (held : List Char) :
    List Char → Page → Page
  | [], p => p.put held.reverse
  | c :: rest, p =>
    let escaped := isEscaped c
    let fresh := escaped || held.isEmpty
    let p := if escaped then p.put (held.reverse ++ escape c) else p
    let held := if escaped then [] else held
    let reach := p.column + held.length
    let full := if escaped then width + 1 < reach else width < reach
    if foldable && !first && !rest.isEmpty && (c == ' ' || fresh) && full then
      let p := (p.put (held.reverse ++ ['\\'])).fold column
      let next := if escaped then rest.headD 'x' else c
      let p := if next == ' ' then p.put ['\\'] else p
      putDoubleQuoted foldable column false (if escaped then [] else [c]) rest p
    else putDoubleQuoted foldable column false (if escaped then [] else c :: held) rest p

def doubleQuoted (p : Page) (foldable : Bool) (column : Nat) (cs : List Char) : Page :=
  (putDoubleQuoted foldable column true [] cs (p.apart '"')).mark '"'

/-- Write lines below a mark, each from a column on. -/
def literal (p : Page) (column : Nat) (cs : List Char) : Page :=
  ((Text.parts '\n' cs).dropLast).foldl (fun p line => ((p.toColumn column).put line).newLine)
    (p.apart '|').newLine

/-- Write a scalar, with its tag if it does not follow from the text; a folded line goes on at a
column. -/
def scalar (p : Page) (place : ScalarPlace) (column : Nat) (s : Scalar) : Page :=
  let cs := s.text.toList
  let foldable := !place.simpleKey
  let style := styleOf place s
  let p := if style == .plain || s.tag == .str then p else p.word s.tag.mark
  match style with
  | .plain => p.plain foldable column cs
  | .singleQuoted => p.singleQuoted foldable column cs
  | .doubleQuoted => p.doubleQuoted foldable column cs
  | .literal => p.literal column cs

end Page

end StyleUsage.Yaml
