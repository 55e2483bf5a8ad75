import StyleUsage.Report.Table

/-!
# Consoles

A report is printed by a console, which comes from elsewhere. A console reads markup, sets what it
shows in lines of its width, and lays out tables. Reports are written for any console.
-/

namespace StyleUsage.Report

/-- What a report needs of a console. -/
structure Console where
  /-- The columns of a line. -/
  width : Nat
  /-- Whether a name between colons stands for an emoji. -/
  isEmoji : List Char → Bool
  /-- The text that markup shows. -/
  markup : String → Except MarkupError String
  /-- A text set in lines. -/
  paragraph : String → String
  /-- A table of texts set in lines. -/
  table : Table → String

def Console.shownTable (c : Console) (t : Table) : Except MarkupError Table := do
  let columns ← t.columns.mapM fun column => do
    let heading ← c.markup column.heading
    .ok { column with heading }
  let rows ← t.rows.mapM fun row => row.mapM c.markup
  let title ← c.markup t.title
  .ok { title, columns, rows }

def Console.ofWidth (width : Nat) : Console where
  width := width
  isEmoji := Text.isEmoji
  markup := fun s => (plainText s).map String.ofList
  paragraph := fun s => wrapped width s.toList
  table := Table.layOut width

/-- The console that is used where nothing else is said. -/
def Console.standard : Console := .ofWidth 80

end StyleUsage.Report
