import StyleUsage.Decimal.Double
import StyleUsage.Report.Line

/-!
# Tables

A table has a title, columns with headings, and rows of cells. Each column is as wide as its widest
cell, with a space on either side. If the table were wider than a line, the widest columns are made
narrower first; their cells then take several lines, and words that are still too long are
shortened.
-/

namespace StyleUsage.Report

open Text (columns)

structure Column where
  heading : String
  alignment : Alignment
  deriving DecidableEq, Repr

structure Table where
  title : String
  columns : List Column
  rows : List (List String)
  deriving DecidableEq, Repr

/-! ## Widths -/

/-- The sum of some widths. -/
def total (widths : List Nat) : Nat := widths.foldr (· + ·) 0

/-- Whether a character ends a line where widths are measured. -/
def endsLine (c : Char) : Bool :=
  let n := c.toNat
  (10 ≤ n && n ≤ 13) || (0x1C ≤ n && n ≤ 0x1E) || n == 0x85 || n == 0x2028 || n == 0x2029

/-- The columns of the widest line of a text. -/
def widest (cs : List Char) : Nat :=
  let lines := Text.parts '\n' (cs.map fun c => if endsLine c then '\n' else c)
  (lines.map columns).foldl max 0

/-- The spaces at the sides of a cell. -/
def padding : Nat := 2

/-- The width that a column takes if it may take `most` columns. -/
def columnWidth (most : Nat) (cells : List (List Char)) : Nat :=
  (cells.map fun cs => min (widest cs + padding) most).foldl max 0

/-- Take a total off values in the proportion of their ratios, off each at most its maximum.
`remaining` is what is still to be taken off, and `ratioLeft` the sum of the ratios to come. -/
def takeOff (remaining ratioLeft : Nat) : List (Nat × Nat × Nat) → List Nat
  | [] => []
  | (ratio, most, value) :: rest =>
    if ratio ≠ 0 ∧ most ≠ 0 then
      let share := min most (Decimal.divNearest (ratio * remaining) ratioLeft)
      (value - share) :: takeOff (remaining - share) (ratioLeft - ratio) rest
    else value :: takeOff remaining ratioLeft rest

/-- Take a total off values, off each value with a ratio at most its maximum. -/
def reduceBy (excess : Nat) (entries : List (Nat × Nat × Nat)) : List Nat :=
  let ratios := entries.map fun (ratio, most, _) => if most = 0 then 0 else ratio
  takeOff excess (total ratios) entries

/-- Make the widest columns narrower until all fit into `most` columns. -/
def collapse (most : Nat) : Nat → List Nat → List Nat
  | 0, widths => widths
  | fuel + 1, widths =>
    let excess := total widths - most
    if excess = 0 then widths
    else
      let top := widths.foldl max 0
      let second := (widths.filter (· != top)).foldl max 0
      let step := min excess (top - second)
      if step = 0 then widths
      else
        let entries := widths.map fun w => (if w = top then 1 else 0, step, w)
        collapse most fuel (reduceBy excess entries)

/-- The widths of the columns of cells if they may take `most` columns together. -/
def columnWidths (most : Nat) (cells : List (List (List Char))) : List Nat :=
  let natural := cells.map (columnWidth most)
  if total natural ≤ most then natural
  else
    let widths := collapse most (total natural) natural
    let widths :=
      if total widths ≤ most then widths
      else reduceBy (total widths - most) (widths.map fun w => (1, w, w))
    List.zipWith columnWidth widths cells

/-! ## Rows -/

/-- The characters of a frame: the ends of a line, what stands between columns, and what fills a
line that holds no cells. -/
structure Frame where
  left : Char
  between : Char
  right : Char
  fill : Char

/-- The line above the headings. -/
def Frame.top : Frame := ⟨'┏', '┳', '┓', '━'⟩

def Frame.heading : Frame := ⟨'┃', '┃', '┃', ' '⟩

/-- The line below the headings. -/
def Frame.rule : Frame := ⟨'┡', '╇', '┩', '━'⟩

def Frame.row : Frame := ⟨'│', '│', '│', ' '⟩

/-- The line below the rows. -/
def Frame.bottom : Frame := ⟨'└', '┴', '┘', '─'⟩

def Frame.line (f : Frame) (cells : List (List Char)) : List Char :=
  f.left :: ([f.between].intercalate cells) ++ [f.right]

/-- A line of a frame without cells. -/
def Frame.empty (f : Frame) (widths : List Nat) : List Char :=
  f.line (widths.map fun w => List.replicate w f.fill)

def cellLines (alignment : Alignment) (width : Nat) (cs : List Char) : List (List Char) :=
  let inner := width - padding
  (setLines inner false cs).map fun line => ' ' :: align alignment inner line ++ [' ']

/-- Blank lines that fill a cell up to the height of its row, above or below it. -/
def fillCell (above : Bool) (height width : Nat) (lines : List (List Char)) : List (List Char) :=
  let blank := List.replicate (height - lines.length) (List.replicate width ' ')
  if above then blank ++ lines else lines ++ blank

/-- The lines of a row. The headings stand at the bottom of their row, other cells at the top. -/
def rowLines (f : Frame) (above : Bool) (alignments : List Alignment) (widths : List Nat)
    (cells : List (List Char)) : List (List Char) :=
  let set := List.zipWith (fun (a, w) cs => cellLines a w cs) (alignments.zip widths) cells
  let height := (set.map List.length).foldl max 1
  let full := List.zipWith (fillCell above height) widths set
  (List.range height).map fun n => f.line (full.map fun lines => lines.getD n [])

namespace Table

/-- The cells of each column, the heading first. -/
def cellsByColumn (headings : List (List Char)) (rows : List (List (List Char))) :
    List (List (List Char)) :=
  headings.mapIdx fun n heading => heading :: rows.map fun row => row.getD n []

def layOut (width : Nat) (t : Table) : String :=
  let headings := t.columns.map (·.heading.toList)
  let rows := t.rows.map (·.map String.toList)
  let extra := t.columns.length + 1
  let widths := columnWidths (width - extra) (cellsByColumn headings rows)
  let alignments := t.columns.map Column.alignment
  let titleWidth := total widths + extra
  joinLines (
    (setLines titleWidth true t.title.toList).map (align .center titleWidth) ++
    [Frame.top.empty widths] ++
    rowLines .heading true alignments widths headings ++
    [Frame.rule.empty widths] ++
    rows.flatMap (rowLines .row false alignments widths) ++
    [Frame.bottom.empty widths])

end Table

end StyleUsage.Report
