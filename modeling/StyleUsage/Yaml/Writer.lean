import StyleUsage.Yaml.Written

/-!
# Writing YAML documents

A value as a YAML document. A list or a mapping that holds scalars only is written between brackets,
any other as a block; an indentation step is two columns, and the items of a list stand in the
column of its key.
-/

namespace StyleUsage.Yaml

/-- The text of an anchor or of an alias, after its mark. -/
def anchorName (anchor : Nat) : String := "id" ++ String.ofList (Text.padded 3 anchor)

namespace Outline

/-- Whether a scalar stands in a place, and not as a block. -/
def isFlatItem : Outline → Bool
  | .reference _ isScalar => isScalar
  | .scalar _ s => s.tag != .binary
  | _ => false

/-- Whether a value is written between brackets where a block could stand. -/
def isFlat : Outline → Bool
  | .sequence _ items => items.all isFlatItem
  | .mapping _ _ entries => entries.all fun (k, v) => k.isFlatItem && v.isFlatItem
  | _ => true

/-- Whether a key stands on one line with its value; one that is long, empty or has line ends is
marked by a question mark. The limit of 128 characters includes its tag and its anchor. -/
def isSimpleKey : Outline → Bool
  | .reference .. => true
  | .scalar anchor s =>
    let cs := s.text.toList
    let anchorLength := (anchor.map fun a => (anchorName a).length).getD 0
    anchorLength + s.tag.mark.length + cs.length < 128 && !cs.isEmpty && !hasBreak cs
  | _ => false

end Outline

/-- The number of columns of an indentation step. -/
def step : Nat := 2

namespace Page

/-- Write an anchor, if there is one. -/
def anchor (p : Page) (anchor : Option Nat) : Page :=
  match anchor with
  | some a => p.word ("&" ++ anchorName a)
  | none => p

/-- Write the tag of a mapping, unless it is the one that every mapping has. -/
def mappingTag (p : Page) (tag : Tag) : Page := if tag == .map then p else p.word tag.mark

def key (p : Page) (place : ScalarPlace) (column : Nat) : Outline → Page
  | .reference anchor _ => p.word ("*" ++ anchorName anchor)
  | .scalar anchor s => (p.anchor anchor).scalar place (column + step) s
  | _ => p

/-- Write a key between brackets, with its colon. -/
def flowKey (p : Page) (column : Nat) (key : Outline) : Page :=
  if key.isSimpleKey then (p.key ⟨true, true⟩ column key).mark ':'
  else
    let p := (p.apart '?').key ⟨true, false⟩ column key
    (if p.isFull then p.toColumn column else p).apart ':'

/-- Write a key of a block, with its colon. -/
def blockKey (p : Page) (column : Nat) (key : Outline) : Page :=
  let p := p.toColumn column
  if key.isSimpleKey then (p.key ⟨false, true⟩ column key).mark ':'
  else (((p.bullet '?').key ⟨false, false⟩ column key).toColumn column).bullet ':'

/-- The place of the next item between brackets: a comma comes first, unless it is the first item,
and a new line if the last one is full. -/
def nextItem (p : Page) (first : Bool) (column : Nat) : Page :=
  let p := if first then p else p.mark ','
  if p.isFull then p.toColumn column else p

end Page

mutual

/-- Write a value inside a block or between brackets of the given column. A list that is the value
of a key is not indented further. -/
def writeValue (inFlow : Bool) (isValue : Bool) (column : Nat) : Outline → Page → Page
  | .reference anchor _, p => p.word ("*" ++ anchorName anchor)
  | .scalar anchor s, p => (p.anchor anchor).scalar ⟨inFlow, false⟩ (column + step) s
  | .sequence anchor items, p =>
    let p := p.anchor anchor
    if inFlow || items.all Outline.isFlatItem then
      (writeFlowItems (column + step) true items (p.openBracket '[')).mark ']'
    else
      writeBlockItems (if isValue && !p.indenting then column else column + step) items p
  | .mapping anchor tag entries, p =>
    let p := (p.anchor anchor).mappingTag tag
    if inFlow || (Outline.mapping anchor tag entries).isFlat then
      (writeFlowEntries (column + step) true entries (p.openBracket '\x7b')).mark '\x7d'
    else writeBlockEntries (column + step) entries p
termination_by structural o => o

def writeFlowItems (column : Nat) (first : Bool) : List Outline → Page → Page
  | [], p => p
  | o :: rest, p =>
    writeFlowItems column false rest (writeValue true false column o (p.nextItem first column))
termination_by structural os => os

def writeFlowEntries (column : Nat) (first : Bool) : List (Outline × Outline) → Page → Page
  | [], p => p
  | (k, v) :: rest, p =>
    let p := (p.nextItem first column).flowKey column k
    writeFlowEntries column false rest (writeValue true true column v p)
termination_by structural es => es

def writeBlockItems (column : Nat) : List Outline → Page → Page
  | [], p => p
  | o :: rest, p =>
    let p := (p.toColumn column).bullet '-'
    writeBlockItems column rest (writeValue false false column o p)
termination_by structural os => os

def writeBlockEntries (column : Nat) : List (Outline × Outline) → Page → Page
  | [], p => p
  | (k, v) :: rest, p =>
    writeBlockEntries column rest (writeValue false true column v (p.blockKey column k))
termination_by structural es => es

end

/-- The page with a value that is not inside another; the blocks of such a value start in the
first column. -/
def writeRoot (o : Outline) : Page :=
  match o.isFlat, o with
  | false, .sequence anchor items => writeBlockItems 0 items (Page.blank.anchor anchor)
  | false, .mapping anchor tag entries =>
    writeBlockEntries 0 entries ((Page.blank.anchor anchor).mappingTag tag)
  | _, o => writeValue false false 0 o .blank

/-- Whether a document needs a mark at its end: a plain scalar alone might go on. -/
def isOpenEnded : Outline → Bool
  | .scalar _ s => styleOf ⟨false, false⟩ s == .plain
  | _ => false

/-- The YAML document of a value, with sorted keys. -/
def write (d : Datum) : String :=
  let o := Outline.ofDatum d
  ((writeRoot o).toColumn 0).text ++ (if isOpenEnded o then "...\n" else "")

end StyleUsage.Yaml
