/-!
# A page that is being written

The writer of a YAML document adds to a page from left to right and from top to bottom. Lines are
folded where a place for it comes after the width of the page.
-/

namespace StyleUsage.Yaml

/-- A document as far as it is written. -/
structure Page where
  text : String
  /-- The number of characters on the last line. -/
  column : Nat
  /-- Whether a mark may follow without a space. -/
  spaced : Bool
  /-- Whether the last line holds nothing but indentation and marks that count as such. -/
  indenting : Bool
  deriving Repr, Inhabited

namespace Page

/-- The column after which lines are folded. -/
def width : Nat := 80

/-- A page without text. -/
def blank : Page := ⟨"", 0, true, true⟩

/-- Add characters, none of which ends the line. -/
def put (p : Page) (cs : List Char) : Page :=
  { p with text := p.text ++ String.ofList cs, column := p.column + cs.length }

def newLine (p : Page) : Page := ⟨p.text.push '\n', 0, true, true⟩

/-- Go to a column, on a new line unless the last line is empty so far. -/
def toColumn (p : Page) (column : Nat) : Page :=
  let p :=
    if !p.indenting || column < p.column || (p.column == column && !p.spaced) then p.newLine else p
  if p.column < column then
    { p.put (List.replicate (column - p.column) ' ') with spaced := true }
  else p

/-- Go to a column on a new line inside a scalar. -/
def fold (p : Page) (column : Nat) : Page :=
  { p.toColumn column with spaced := false, indenting := false }

/-- Add a mark directly after what is there. -/
def mark (p : Page) (m : Char) : Page :=
  { p.put [m] with spaced := false, indenting := false }

/-- Add a word that is set off by a space from what is in front of it. -/
def word (p : Page) (s : String) : Page :=
  let cs := if p.spaced then s.toList else ' ' :: s.toList
  { p.put cs with spaced := false, indenting := false }

/-- Add a mark that is set off by a space from what is in front of it. -/
def apart (p : Page) (m : Char) : Page := p.word (String.singleton m)

def openBracket (p : Page) (m : Char) : Page := { p.apart m with spaced := true }

/-- Add a mark that counts as indentation if it follows indentation. -/
def bullet (p : Page) (m : Char) : Page := { p.apart m with indenting := p.indenting }

def isFull (p : Page) : Bool := width < p.column

end Page

end StyleUsage.Yaml
