import StyleUsage.Report.Markup
import StyleUsage.Text.Basic
import StyleUsage.Text.Width

/-!
# Lines

A text is set in lines of at most a given number of columns. Lines are broken between words. A
word that is longer than a line is cut into several lines, or is left as it is and shortened later,
with an ellipsis at its end.
-/

namespace StyleUsage.Report

open Text (charWidth columns isBlank stripEnd)

def tabStop : Nat := 8

/-- Spaces instead of tabs, from a column on. -/
def expandTabs (column : Nat) : List Char → List Char
  | [] => []
  | c :: rest =>
    if c = '\t' then
      let n := tabStop - column % tabStop
      List.replicate n ' ' ++ expandTabs (column + n) rest
    else c :: expandTabs (column + charWidth c) rest

/-! ## Words -/

/-- Put a character in front of pieces; a piece ends between a blank and a character that is
none. -/
def pushToWord (c : Char) : List (List Char) → List (List Char)
  | [] => [[c]]
  | word :: rest =>
    if isBlank c && !word.head?.any isBlank then [c] :: word :: rest else (c :: word) :: rest

/-- The words of a text, each with the blanks after it; those in front of the first word belong to
it. -/
def words (cs : List Char) : List (List Char) :=
  match cs.foldr pushToWord [] with
  | first :: second :: rest =>
    if first.head?.any isBlank then (first ++ second) :: rest else first :: second :: rest
  | pieces => pieces

/-! ## Breaking -/

/-- Cut a word into stretches of at most `width` columns; `held` is the stretch that is not
complete, the last character first. -/
def chop (width used : Nat) (held : List Char) : List Char → List (List Char)
  | [] => [held.reverse]
  | c :: rest =>
    if width < used + charWidth c then held.reverse :: chop width (charWidth c) [c] rest
    else chop width (used + charWidth c) (c :: held) rest

/-- Lines while they are filled: the complete ones, the last one first, and the one that grows. -/
structure Filling where
  complete : List (List Char)
  current : List Char
  used : Nat

/-- Go to the next line, unless the current one is the first and empty. -/
def Filling.breakLine (f : Filling) : Filling :=
  if f.current.isEmpty then f else ⟨f.current :: f.complete, [], 0⟩

/-- Add a stretch to the current line. -/
def Filling.append (f : Filling) (cs : List Char) : Filling :=
  { f with current := f.current ++ cs, used := f.used + columns cs }

def Filling.add (width : Nat) (cutting : Bool) (f : Filling) (word : List Char) : Filling :=
  let needed := columns (stripEnd word)
  if f.used + needed ≤ width then f.append word
  else if width < needed && cutting then
    (chop width 0 [] word).foldl (fun f piece => f.breakLine.append piece) f
  else f.breakLine.append word

/-- Fill lines with the words of a text. -/
def fill (width : Nat) (cutting : Bool) (cs : List Char) : List (List Char) :=
  let f := (words cs).foldl (Filling.add width cutting) ⟨[], [], 0⟩
  (f.current :: f.complete).reverse

/-- Drop blanks at the end that are beyond the width. -/
def dropExcess (width : Nat) (cs : List Char) : List Char :=
  let blanks := (cs.reverse.takeWhile isBlank).length
  cs.take (cs.length - min blanks (cs.length - width))

def setLines (width : Nat) (cutting : Bool) (cs : List Char) : List (List Char) :=
  (Text.parts '\n' cs).flatMap fun line =>
    let line := if line.contains '\t' then expandTabs 0 line else line
    (fill width cutting line).map (dropExcess width)

/-! ## Fitting -/

/-- Search for the end of the first `total` columns between two places. A wide character that
would lie across the end is replaced by a space. -/
def searchEnd (total : Nat) (cs : List Char) (low high : Nat) : Nat → List Char
  | 0 => cs.take low
  | fuel + 1 =>
    let middle := (low + high) / 2
    let front := cs.take (middle + 1)
    let n := columns front
    if n = total + 1 ∧ front.getLast?.any (charWidth · == 2) then front.dropLast ++ [' ']
    else if n = total then front
    else if total < n then searchEnd total cs low middle fuel
    else searchEnd total cs middle high fuel

/-- The first `total` columns of a text. -/
def takeColumns (total : Nat) (cs : List Char) : List Char :=
  if total = 0 then []
  else if columns cs ≤ total then cs
  else searchEnd total cs 0 cs.length (cs.length + 1)

/-- Shorten a line to a width, with an ellipsis at the end if it is too long. -/
def shorten (width : Nat) (cs : List Char) : List Char :=
  if width < columns cs then takeColumns (width - 1) cs ++ ['…'] else cs

/-- How a line stands in its column. -/
inductive Alignment where
  | left
  | center
  | right
  deriving DecidableEq, Repr

/-- Set a line in a column of a width. The odd space of a centred line goes to its right. -/
def align (alignment : Alignment) (width : Nat) (cs : List Char) : List Char :=
  let cs := if alignment = .left then cs else stripEnd cs
  let cs := shorten width cs
  let room := width - columns cs
  let before := match alignment with
    | .left => 0
    | .center => room / 2
    | .right => room
  List.replicate before ' ' ++ cs ++ List.replicate (room - before) ' '

/-- Lines one below the other. -/
def joinLines (lines : List (List Char)) : String :=
  String.ofList (lines.flatMap fun line => line ++ ['\n'])

/-- A text as a paragraph, its lines one below the other. A blank that is left beyond the width of a
line with wide characters is cut off. -/
def wrapped (width : Nat) (cs : List Char) : String :=
  joinLines ((setLines width true cs).map (takeColumns width))

end StyleUsage.Report
