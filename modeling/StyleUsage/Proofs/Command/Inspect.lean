import StyleUsage.Proofs.Command.Run
import StyleUsage.Proofs.Datum.Rendered
import StyleUsage.Proofs.File.Tree
import StyleUsage.Proofs.Text.Coding

/-!
# What is shown of a summary

The names of a summary are given to the console as markup. So the report ends early if one of them
cannot be read as markup, and a part in brackets at the end of a name, as in the name of a state,
is taken as a tag and is not shown (`not_all_names_shown`). A summary is shown as it is if its texts
are plain (`inspect_outcome`). All this holds for every console that does what is documented of
consoles.
-/

namespace StyleUsage.Command

open Run Report

/-! ## Reports -/

/-- The heading of a record: the identifier and the type of its template. -/
def headline (record : Record) : String :=
  record.template.identifier.display ++ " (" ++ record.template.describe.type ++ ")"

def headlineMarkup (record : Record) : String :=
  "[bold]" ++ record.template.identifier.display ++ "[/bold] [dim](" ++
    record.template.describe.type ++ ")[/dim]"

/-- A table of local names and their sources. -/
def blocksTable (blocks : List (String × String)) : Table where
  title := "Blocks"
  columns := [⟨"Local name", .left⟩, ⟨"Source", .left⟩]
  rows := blocks.map fun (name, source) => [name, source]

/-- A table of the names of styles, of which those at some places are dynamic. -/
def stylesTable (dynamic : List Nat) (names : List String) : Table where
  title := "Styles Found"
  columns := [⟨"#", .right⟩, ⟨"Style", .left⟩, ⟨"Dynamic", .left⟩]
  rows := names.mapIdx fun n name => [toString n, name, if dynamic.contains n then "Yes" else "No"]

def correlationLine (names : List String) : String := "  " ++ " + ".intercalate names

/-- What stands above the correlations of a record, or in their place. -/
def correlationsTitle (record : Record) : String :=
  if record.correlationNames.isEmpty then "No correlations of two or more styles"
  else "Correlations"

/-- The texts of a report on a record. -/
structure Sheet where
  headline : String
  blocks : List (String × String)
  styles : List String
  correlations : List String

def sheetOf (record : Record) : Sheet :=
  ⟨headline record, record.blocks, record.stylesFound, record.correlationNames.map correlationLine⟩

/-- The texts that the markup of a record shows on a console. -/
structure ReadsAs (c : Console) (record : Record) (sheet : Sheet) : Prop where
  headline : c.markup (headlineMarkup record) = .ok sheet.headline
  blocks : List.Forall₂ (fun p shown => c.markup p.1 = .ok shown.1 ∧ c.markup p.2 = .ok shown.2)
    record.blocks sheet.blocks
  styles : List.Forall₂ (fun name shown => c.markup name = .ok shown) record.stylesFound
    sheet.styles
  correlations : List.Forall₂ (fun names shown => c.markup (correlationLine names) = .ok shown)
    record.correlationNames sheet.correlations

/-- A report: a heading, two tables, and the correlations below a title. -/
def reportText (c : Console) (record : Record) (sheet : Sheet) : String :=
  c.paragraph sheet.headline ++ c.table (blocksTable sheet.blocks) ++
    c.table (stylesTable record.dynamicStyles sheet.styles) ++
    c.paragraph (correlationsTitle record) ++ String.join (sheet.correlations.map c.paragraph)

/-- The texts that a record gives to a console can be read as markup. -/
structure HasMarkup (c : Console) (record : Record) : Prop where
  headline : c.IsMarkup (headlineMarkup record)
  blocks : ∀ p ∈ record.blocks, c.IsMarkup p.1 ∧ c.IsMarkup p.2
  styles : ∀ name ∈ record.stylesFound, c.IsMarkup name
  correlations : ∀ names ∈ record.correlationNames, c.IsMarkup (correlationLine names)

/-- A record whose texts are plain for a console. What is set in paragraphs is even, too. -/
structure IsLegible (c : Console) (record : Record) : Prop where
  identifier : IsFront c.isEmoji record.template.identifier.display.toList
  type : c.IsPlain ("(" ++ record.template.describe.type ++ ")")
  headline : IsEven (headline record).toList
  blocks : ∀ p ∈ record.blocks, c.IsPlain p.1 ∧ c.IsPlain p.2
  styles : ∀ name ∈ record.stylesFound, c.IsPlain name
  correlations : ∀ names ∈ record.correlationNames,
    c.IsPlain (correlationLine names) ∧ IsEven (correlationLine names).toList

variable {L : Libraries} {c : Console} {t : FileTree} {r : Registry} {file : Path}
  {T T' : Transcript} {record : Record} {sheet : Sheet}

theorem noTab_headline (h : IsLegible c record) : '\t' ∉ (headline record).toList := by
  have hparts : (headline record).toList = record.template.identifier.display.toList ++
      ' ' :: ("(" ++ record.template.describe.type ++ ")").toList := by
    simp [headline]
  rw [hparts, List.mem_append, List.mem_cons]
  rintro (hid | heq | htype)
  · exact h.identifier.noTab hid
  · exact absurd heq (by decide)
  · exact h.type.noTab htype

/-! ## Parts of the program -/

def readRecord (t : FileTree) (r : Registry) (file : Path) : Except Failure Record := do
  let text ← (t.read file).mapError (readingFailure file)
  let j ← (Json.read text).mapError fun e => .invalid e.message
  (Record.read r (.ofJson j)).mapError recordFailure

def showCorrelations (c : Console) (record : Record) : Run Unit :=
  if record.correlationNames.isEmpty then
    Run.paragraph c "[dim]No correlations of two or more styles[/dim]"
  else do
    Run.paragraph c "[bold]Correlations[/bold]"
    record.correlationNames.forM fun names => Run.paragraph c (correlationLine names)

def showRecord (c : Console) (record : Record) : Run Unit := do
  Run.paragraph c (headlineMarkup record)
  Run.table c (blocksTable record.blocks)
  Run.table c (stylesTable record.dynamicStyles record.stylesFound)
  showCorrelations c record

theorem readRecord_rendered {j : Json} {indent : Int} (hplain : j.IsPlain)
    (hfile : t.find? file = some (.file (Json.rendered indent j).toUTF8))
    (hrecord : Record.read r (.ofJson j) = .ok record) : readRecord t r file = .ok record := by
  have htext : t.read file = .ok (Json.rendered indent j) :=
    FileTree.read_eq_ok_iff.2 ⟨_, hfile, by
      rw [Text.ofBytes_toUTF8, Json.ofFile_rendered hplain]⟩
  unfold readRecord
  rw [htext]
  show ((Json.read _).mapError _ >>= _) = _
  rw [Json.read_rendered hplain]
  exact mapError_eq_ok_iff.2 hrecord

theorem exec_inspect (h : readRecord t r file = .ok record) :
    exec (inspect L t r file) T = exec (showRecord L.console record) T := by
  obtain ⟨text, htext, h⟩ := bind_eq_ok_iff.1 h
  obtain ⟨j, hj, hrecord⟩ := bind_eq_ok_iff.1 h
  rw [mapError_eq_ok_iff] at htext hj hrecord
  unfold inspect
  rw [exec_require_bind, htext]
  show exec (Run.require _ (Json.read text) >>= _) T = _
  rw [exec_require_bind, hj]
  show exec (Run.require _ (Record.read r (.ofJson j)) >>= _) T = _
  rw [exec_require_bind, hrecord]
  rfl

/-! ## Labels and numbers -/

/-- Whether every character of a text stands for itself in markup. -/
def isOrdinaryText (s : String) : Bool :=
  (s.toList.all fun d => decide (IsOrdinary d)) && s.toList.count ':' ≤ 1 &&
    s.toList.getLast? != some '\\'

theorem isFront_of_isOrdinaryText {s : String} (h : isOrdinaryText s = true) :
    IsFront c.isEmoji s.toList := by
  simp only [isOrdinaryText, Bool.and_eq_true, decide_eq_true_iff, bne_iff_ne] at h
  obtain ⟨⟨hordinary, hcolons⟩, hend⟩ := h
  exact ⟨isPlain_of_isOrdinary (List.all_iff_forall_prop.1 hordinary) hcolons, hend⟩

/-- The texts that stand in every report. -/
def labels : List String :=
  ["Blocks", "Local name", "Source", "Styles Found", "#", "Style", "Dynamic", "Yes", "No",
    "Correlations", "No correlations of two or more styles"]

theorem isFront_label {label : String} (h : label ∈ labels) : IsFront c.isEmoji label.toList := by
  have hall : ∀ label ∈ labels, isOrdinaryText label = true := by decide +kernel
  exact isFront_of_isOrdinaryText (hall label h)

theorem isPlain_label {label : String} (h : label ∈ labels) : c.IsPlain label :=
  (isFront_label h).toIsPlain

theorem isOrdinary_of_isDigit {d : Char} (h : d.isDigit = true) : IsOrdinary d := by
  have hlt : d.toNat < 0x3A := Nat.lt_succ_of_le (Char.isDigit_iff_toNat.1 h).2
  exact Text.forall_char_lt (P := fun d => d.isDigit = true → IsOrdinary d) (by decide +kernel)
    hlt h

theorem isPlain_number (n : Nat) : c.IsPlain (toString n) := by
  have hdigits : ∀ d ∈ (toString n).toList, d.isDigit = true := by
    intro d hd
    have hd : d ∈ Nat.toDigits 10 n := by simpa [toString] using hd
    exact Nat.isDigit_of_mem_toDigits (by decide) (by decide) hd
  refine isPlain_of_isOrdinary (fun d hd => isOrdinary_of_isDigit (hdigits d hd)) ?_
  rw [List.count_eq_zero.2 fun hd => absurd (hdigits _ hd) (by decide)]
  exact Nat.zero_le 1

theorem isTagName_bold : IsTagName "bold".toList :=
  ⟨by decide, List.all_iff_forall_prop.1 (by decide)⟩

theorem isTagName_dim : IsTagName "dim".toList :=
  ⟨by decide, List.all_iff_forall_prop.1 (by decide)⟩

/-! ## What is printed -/

section Documented

variable (hc : c.Documented)
include hc

theorem markup_headline (hid : IsFront c.isEmoji record.template.identifier.display.toList)
    (htype : c.IsPlain ("(" ++ record.template.describe.type ++ ")")) :
    c.markup (headlineMarkup record) = .ok (headline record) := by
  have hend : ("(" ++ record.template.describe.type ++ ")").toList.getLast? ≠ some '\\' := by
    rw [String.toList_append]
    exact (List.getLast?_concat ..).trans_ne (by decide)
  have hspace : IsFront c.isEmoji [' '] :=
    ⟨isPlain_of_isOrdinary (List.forall_mem_singleton.2 (by decide +kernel)) (by decide), by decide⟩
  let parts : List Styled :=
    [⟨[], "bold".toList, record.template.identifier.display.toList⟩,
      ⟨[' '], "dim".toList, ("(" ++ record.template.describe.type ++ ")").toList⟩]
  have hparts : ∀ p ∈ parts, p.IsSound c.isEmoji :=
    List.forall_mem_cons.2 ⟨⟨⟨.nil, nofun⟩, isTagName_bold, hid⟩,
      List.forall_mem_singleton.2 ⟨hspace, isTagName_dim, htype, hend⟩⟩
  have hmarkup : headlineMarkup record = String.ofList (parts.flatMap Styled.markup ++ []) := by
    simp [headlineMarkup, parts, Styled.markup, ← String.toList_inj]
  have hshown : headline record = String.ofList (parts.flatMap Styled.shown ++ []) := by
    simp [headline, parts, Styled.shown, ← String.toList_inj]
  rw [hmarkup, hc.styled parts [] hparts .nil, hshown]

theorem shownTable_blocksTable_iff {blocks : List (String × String)} {table : Table} :
    c.shownTable (blocksTable blocks) = .ok table ↔
      ∃ shown, List.Forall₂ (fun p q => c.markup p.1 = .ok q.1 ∧ c.markup p.2 = .ok q.2) blocks
        shown ∧ blocksTable shown = table := by
  have hrow (p : String × String) (row : List String) :
      List.Forall₂ (fun cell cell' => c.markup cell = .ok cell') [p.1, p.2] row ↔
        ∃ q : String × String, (c.markup p.1 = .ok q.1 ∧ c.markup p.2 = .ok q.2) ∧
          [q.1, q.2] = row := by
    simp [List.forall₂_cons_left_iff, and_assoc, eq_comm (b := row)]
  have hheadings : ∀ heading ∈ ["Blocks", "Local name", "Source"], c.IsPlain heading := by
    have hall : ∀ heading ∈ ["Blocks", "Local name", "Source"], heading ∈ labels := by decide
    exact fun heading hheading => isPlain_label (hall heading hheading)
  obtain ⟨htitle, hheadings⟩ := List.forall_mem_cons.1 hheadings
  rw [hc.shownTable_eq_ok_iff (t := blocksTable blocks) htitle (List.forall_mem_map.1 hheadings)]
  constructor
  · rintro ⟨rows, hrows, rfl⟩
    obtain ⟨shown, hshown, rfl⟩ := (forall₂_map_iff hrow).1 hrows
    exact ⟨shown, hshown, rfl⟩
  · rintro ⟨shown, hshown, rfl⟩
    exact ⟨_, (forall₂_map_iff hrow).2 ⟨shown, hshown, rfl⟩, rfl⟩

theorem shownTable_stylesTable_iff {dynamic : List Nat} {names : List String} {table : Table} :
    c.shownTable (stylesTable dynamic names) = .ok table ↔
      ∃ shown, List.Forall₂ (fun name s => c.markup name = .ok s) names shown ∧
        stylesTable dynamic shown = table := by
  have hrow (n : Nat) (name : String) (row : List String) :
      List.Forall₂ (fun cell cell' => c.markup cell = .ok cell')
        [toString n, name, if dynamic.contains n then "Yes" else "No"] row ↔
        ∃ s, c.markup name = .ok s ∧
          [toString n, s, if dynamic.contains n then "Yes" else "No"] = row := by
    have hlabel : (if dynamic.contains n then "Yes" else "No") ∈ labels := by split <;> decide
    simp only [List.forall₂_cons_left_iff, List.forall₂_nil_left_iff,
      hc.markup_of_isPlain (isPlain_number n), hc.markup_of_isPlain (isPlain_label hlabel)]
    simp [eq_comm (b := row)]
  have hheadings : ∀ heading ∈ ["Styles Found", "#", "Style", "Dynamic"], c.IsPlain heading := by
    have hall : ∀ heading ∈ ["Styles Found", "#", "Style", "Dynamic"], heading ∈ labels := by decide
    exact fun heading hheading => isPlain_label (hall heading hheading)
  obtain ⟨htitle, hheadings⟩ := List.forall_mem_cons.1 hheadings
  rw [hc.shownTable_eq_ok_iff (t := stylesTable dynamic names) htitle
    (List.forall_mem_map.1 hheadings)]
  constructor
  · rintro ⟨rows, hrows, rfl⟩
    obtain ⟨shown, hshown, rfl⟩ := (forall₂_mapIdx_iff hrow).1 hrows
    exact ⟨shown, hshown, rfl⟩
  · rintro ⟨shown, hshown, rfl⟩
    exact ⟨_, (forall₂_mapIdx_iff hrow).2 ⟨shown, hshown, rfl⟩, rfl⟩

/-- The correlations are printed below a title, or the title stands in their place. -/
theorem exec_showCorrelations_eq_ok_iff : exec (showCorrelations c record) T = (.ok (), T') ↔
    ∃ lines, List.Forall₂ (fun names line => c.markup (correlationLine names) = .ok line)
        record.correlationNames lines ∧
      { T with output := T.output ++ c.paragraph (correlationsTitle record) ++
        String.join (lines.map c.paragraph) } = T' := by
  unfold showCorrelations correlationsTitle
  split
  · next hnone =>
    have hparts : "[dim]No correlations of two or more styles[/dim]" =
        "[" ++ "dim" ++ "]" ++ "No correlations of two or more styles" ++ "[/" ++ "dim" ++ "]" := by
      decide
    rw [hparts, exec_paragraph (hc.markup_tagged isTagName_dim (isFront_label (by decide))),
      List.isEmpty_iff.1 hnone]
    simp
  · have hparts : "[bold]Correlations[/bold]" =
        "[" ++ "bold" ++ "]" ++ "Correlations" ++ "[/" ++ "bold" ++ "]" := by
      decide
    rw [hparts, exec_bind,
      exec_paragraph (hc.markup_tagged isTagName_bold (isFront_label (by decide)))]
    exact exec_paragraphs_eq_ok_iff

/-- The parts of a report stand one below the other. -/
theorem exec_showRecord_eq_ok_iff : exec (showRecord c record) T = (.ok (), T') ↔
    ∃ sheet, ReadsAs c record sheet ∧
      { T with output := T.output ++ reportText c record sheet } = T' := by
  unfold showRecord reportText
  simp only [← String.append_assoc]
  constructor
  · intro h
    obtain ⟨_, _, hprint, h⟩ := exec_bind_eq_ok.1 h
    obtain ⟨headline, hheadline, rfl⟩ := exec_paragraph_eq_ok_iff.1 hprint
    obtain ⟨_, _, hprint, h⟩ := exec_bind_eq_ok.1 h
    obtain ⟨table, htable, rfl⟩ := exec_table_eq_ok_iff.1 hprint
    obtain ⟨blocks, hblocks, rfl⟩ := (shownTable_blocksTable_iff hc).1 htable
    obtain ⟨_, _, hprint, h⟩ := exec_bind_eq_ok.1 h
    obtain ⟨table, htable, rfl⟩ := exec_table_eq_ok_iff.1 hprint
    obtain ⟨styles, hstyles, rfl⟩ := (shownTable_stylesTable_iff hc).1 htable
    obtain ⟨correlations, hcorrelations, rfl⟩ := (exec_showCorrelations_eq_ok_iff hc).1 h
    exact ⟨⟨headline, blocks, styles, correlations⟩,
      ⟨hheadline, hblocks, hstyles, hcorrelations⟩, rfl⟩
  · rintro ⟨sheet, h, rfl⟩
    exact exec_bind_eq_ok.2 ⟨_, _, exec_paragraph_eq_ok_iff.2 ⟨_, h.headline, rfl⟩,
      exec_bind_eq_ok.2 ⟨_, _, exec_table_eq_ok_iff.2
        ⟨_, (shownTable_blocksTable_iff hc).2 ⟨_, h.blocks, rfl⟩, rfl⟩,
        exec_bind_eq_ok.2 ⟨_, _, exec_table_eq_ok_iff.2
          ⟨_, (shownTable_stylesTable_iff hc).2 ⟨_, h.styles, rfl⟩, rfl⟩,
          (exec_showCorrelations_eq_ok_iff hc).2 ⟨_, h.correlations, rfl⟩⟩⟩⟩

theorem readsAs_of_isLegible (h : IsLegible c record) : ReadsAs c record (sheetOf record) where
  headline := markup_headline hc h.identifier h.type
  blocks := List.forall₂_same.2 fun p hp =>
    ⟨hc.markup_of_isPlain (h.blocks p hp).1, hc.markup_of_isPlain (h.blocks p hp).2⟩
  styles := List.forall₂_same.2 fun name hname => hc.markup_of_isPlain (h.styles name hname)
  correlations := List.forall₂_map_right_iff.2 (List.forall₂_same.2 fun names hnames =>
    hc.markup_of_isPlain (h.correlations names hnames).1)

end Documented

theorem exists_readsAs_iff : (∃ sheet, ReadsAs c record sheet) ↔ HasMarkup c record := by
  constructor
  · rintro ⟨sheet, h⟩
    refine ⟨⟨_, h.headline⟩, fun p hp => ?_, fun name hname => ?_, fun names hnames => ?_⟩
    · obtain ⟨q, -, h₁, h₂⟩ := exists_of_mem_left h.blocks hp
      exact ⟨⟨_, h₁⟩, ⟨_, h₂⟩⟩
    · obtain ⟨shown, -, hshown⟩ := exists_of_mem_left h.styles hname
      exact ⟨shown, hshown⟩
    · obtain ⟨line, -, hline⟩ := exists_of_mem_left h.correlations hnames
      exact ⟨line, hline⟩
  · rintro ⟨⟨headline, hheadline⟩, hblocks, hstyles, hcorrelations⟩
    obtain ⟨blocks, hblocks⟩ : ∃ blocks : List (String × String), List.Forall₂
        (fun p q => c.markup p.1 = .ok q.1 ∧ c.markup p.2 = .ok q.2) record.blocks blocks := by
      refine exists_forall₂ fun p hp => ?_
      obtain ⟨⟨name, hname⟩, ⟨source, hsource⟩⟩ := hblocks p hp
      exact ⟨(name, source), hname, hsource⟩
    obtain ⟨styles, hstyles⟩ := exists_forall₂ hstyles
    obtain ⟨correlations, hcorrelations⟩ := exists_forall₂ hcorrelations
    exact ⟨⟨headline, blocks, styles, correlations⟩, hheadline, hblocks, hstyles, hcorrelations⟩

/-! ## The outcome -/

/-- A report is made of what the markup of the record shows. -/
theorem exec_inspect_eq_ok_iff (hL : L.console.Documented)
    (hread : readRecord t r file = .ok record) :
    exec (inspect L t r file) T = (.ok (), T') ↔ ∃ sheet, ReadsAs L.console record sheet ∧
      { T with output := T.output ++ reportText L.console record sheet } = T' := by
  rw [exec_inspect hread, exec_showRecord_eq_ok_iff hL]

theorem ends_inspect (hL : L.console.Documented) (hread : readRecord t r file = .ok record) :
    Ends (inspect L t r file) T ↔ HasMarkup L.console record := by
  rw [← exists_readsAs_iff]
  constructor
  · rintro ⟨T', h⟩
    obtain ⟨sheet, hsheet, -⟩ := (exec_inspect_eq_ok_iff hL hread).1 h
    exact ⟨sheet, hsheet⟩
  · rintro ⟨sheet, hsheet⟩
    exact ⟨_, (exec_inspect_eq_ok_iff hL hread).2 ⟨sheet, hsheet, rfl⟩⟩

theorem getElem?_styles_of_hidden (hc : c.Documented) (h : ReadsAs c record sheet) {n : Nat}
    {front body back : List Char}
    (hname : record.stylesFound[n]? = some (String.ofList (front ++ '[' :: (body ++ ']' :: back))))
    (hfront : IsFront c.isEmoji front) (hbody : IsBody body) (hslash : body.head? ≠ some '/')
    (hback : Report.IsPlain c.isEmoji back) :
    sheet.styles[n]? = some (String.ofList (front ++ back)) := by
  obtain ⟨shown, hat, hshown⟩ := exists_getElem?_of_forall₂ h.styles hname
  rw [hc.hidden front body back hfront hbody hslash hback] at hshown
  rw [hat, Except.ok.inj hshown]

/-- **What is shown of a record.** The run goes to its end exactly if the texts of the record can be
read as markup. What is printed is the report of what their markup shows: of a style with a part in
brackets, the rest. If the texts are plain, the lines that are printed show the identifier and the
type of the template, the blocks with their sources and the styles in the rows of two tables, and
the names of each correlation. If a style has a tag that closes what was not opened, the run does
not go to its end. -/
theorem inspect_outcome (hL : L.console.Documented) (hread : readRecord t r file = .ok record)
    (T : Transcript) :
    (Ends (inspect L t r file) T ↔ HasMarkup L.console record) ∧
    (∀ T', exec (inspect L t r file) T = (.ok (), T') → ∃ sheet : Sheet,
      ReadsAs L.console record sheet ∧
      { T with output := T.output ++ reportText L.console record sheet } = T' ∧
      ∀ (n : Nat) (front body back : List Char),
        record.stylesFound[n]? = some (String.ofList (front ++ '[' :: (body ++ ']' :: back))) →
        IsFront L.console.isEmoji front → IsBody body → body.head? ≠ some '/' →
        Report.IsPlain L.console.isEmoji back →
        sheet.styles[n]? = some (String.ofList (front ++ back))) ∧
    (IsLegible L.console record →
      exec (inspect L t r file) T =
        (.ok (), { T with output := T.output ++ reportText L.console record (sheetOf record) }) ∧
      Shows (L.console.paragraph (headline record)) (headline record).toList ∧
      (blocksTable record.blocks).IsShownBy L.console.width
        (L.console.table (blocksTable record.blocks)) ∧
      (stylesTable record.dynamicStyles record.stylesFound).IsShownBy L.console.width
        (L.console.table (stylesTable record.dynamicStyles record.stylesFound)) ∧
      ∀ names ∈ record.correlationNames,
        Shows (L.console.paragraph (correlationLine names)) (correlationLine names).toList) ∧
    ∀ front body back : List Char,
      String.ofList (front ++ '[' :: ('/' :: body ++ ']' :: back)) ∈ record.stylesFound →
      IsFront L.console.isEmoji front → (∀ d ∈ body, IsInside d) → HasNoTag back →
      ¬Ends (inspect L t r file) T := by
  refine ⟨ends_inspect hL hread, fun T' h => ?_, fun h => ⟨?_, ?_, hL.table _, hL.table _, ?_⟩, ?_⟩
  · obtain ⟨sheet, hsheet, hT'⟩ := (exec_inspect_eq_ok_iff hL hread).1 h
    exact ⟨sheet, hsheet, hT', fun n front body back hname hfront hbody hslash hback =>
      getElem?_styles_of_hidden hL hsheet hname hfront hbody hslash hback⟩
  · exact (exec_inspect_eq_ok_iff hL hread).2 ⟨_, readsAs_of_isLegible hL h, rfl⟩
  · exact hL.paragraph _ (noTab_headline h) h.headline
  · exact fun names hnames =>
      hL.paragraph _ (h.correlations names hnames).1.noTab (h.correlations names hnames).2
  · intro front body back hname hfront hbody hback hends
    obtain ⟨text, htext⟩ := ((ends_inspect hL hread).1 hends).styles _ hname
    obtain ⟨e, he⟩ := hL.unopened front body back hfront hbody hback
    cases he.symm.trans htext

/-- A summary with two styles and a correlation of them is read and shown, its styles with room for
their names. -/
theorem inspect_outcome_correlation :
    let j : Json := .obj [
      ("template", .obj [("type", .str "CssBlocks.TemplateInfo"), ("identifier", .str "app.hbs")]),
      ("blocks", .obj [("nav", .str "nav.css")]),
      ("stylesFound", .arr [.str "nav", .str "nav.item"]),
      ("dynamicStyles", .arr [.int 1]),
      ("styleCorrelations", .arr [.arr [.int 0, .int 1]])]
    let t : FileTree := ⟨[], [(["a.json"], (Json.rendered 0 j).toUTF8)], [[]]⟩
    let L : Libraries := .standard
    let c := L.console
    let record : Record := ⟨⟨.base, .str "app.hbs", []⟩, [("nav", "nav.css")], ["nav", "nav.item"],
      [1], [[0, 1]]⟩
    let table := stylesTable record.dynamicStyles record.stylesFound
    c.Documented ∧ readRecord t .initial ⟨.here, ["a.json"]⟩ = .ok record ∧ IsLegible c record ∧
      (exec (inspect L t .initial ⟨.here, ["a.json"]⟩) ⟨"", "", [], []⟩ =
          (.ok (), ⟨"" ++ reportText c record (sheetOf record), "", [], []⟩) ∧
        Shows (c.paragraph (headline record)) (headline record).toList ∧
        (blocksTable record.blocks).IsShownBy c.width (c.table (blocksTable record.blocks)) ∧
        table.IsShownBy c.width (c.table table) ∧
        ∀ names ∈ record.correlationNames,
          Shows (c.paragraph (correlationLine names)) (correlationLine names).toList) ∧
      table.FitsAt c.width 40 ∧ table.naturalWidths[1]? = some 10 ∧
      ∀ name ∈ record.stylesFound, FitsInto 10 name.toList := by
  intro j t L c record table
  have hL : c.Documented := Console.documented_standard
  have hplain : j.IsPlain := by
    simp [j, Json.IsPlain, Json.IsPlainFields, Json.IsPlainList, Entries.keys]
  have hread : readRecord t .initial ⟨.here, ["a.json"]⟩ = .ok record :=
    readRecord_rendered hplain rfl rfl
  have hlegible : IsLegible c record := by
    have hfront : ∀ s ∈ ["app.hbs", "(CssBlocks.TemplateInfo)", "nav", "nav.css", "nav.item",
        "  nav + nav.item"], IsFront c.isEmoji s.toList := by
      have hall : ∀ s ∈ ["app.hbs", "(CssBlocks.TemplateInfo)", "nav", "nav.css", "nav.item",
          "  nav + nav.item"], isOrdinaryText s = true := by
        decide +kernel
      exact fun s hs => isFront_of_isOrdinaryText (hall s hs)
    have hnarrow : ∀ s ∈ ["app.hbs (CssBlocks.TemplateInfo)", "  nav + nav.item"],
        (s.toList.all fun d => decide (Text.charWidth d ≤ 1)) = true := by
      decide +kernel
    exact {
      identifier := hfront "app.hbs" (by decide)
      type := (hfront "(CssBlocks.TemplateInfo)" (by decide)).toIsPlain
      headline := .inr (List.all_iff_forall_prop.1
        (hnarrow "app.hbs (CssBlocks.TemplateInfo)" (by decide)))
      blocks := List.forall_mem_singleton.2
        ⟨(hfront "nav" (by decide)).toIsPlain, (hfront "nav.css" (by decide)).toIsPlain⟩
      styles := List.forall_mem_cons.2 ⟨(hfront "nav" (by decide)).toIsPlain,
        List.forall_mem_singleton.2 (hfront "nav.item" (by decide)).toIsPlain⟩
      correlations := List.forall_mem_singleton.2
        ⟨(hfront "  nav + nav.item" (by decide)).toIsPlain,
        .inr (List.all_iff_forall_prop.1 (hnarrow "  nav + nav.item" (by decide)))⟩ }
  have hfits : ∀ name ∈ record.stylesFound, FitsInto 10 name.toList := by
    have hall : ∀ name ∈ record.stylesFound, '\t' ∉ name.toList ∧
        (name.toList.all fun d => decide (0 < Text.charWidth d)) = true ∧
          Text.columns name.toList + padding ≤ 10 := by
      decide +kernel
    intro name hname
    obtain ⟨htab, hsolid, hcolumns⟩ := hall name hname
    exact ⟨htab, .inl ⟨List.all_iff_forall_prop.1 hsolid, hcolumns⟩⟩
  exact ⟨hL, hread, hlegible, (inspect_outcome hL hread _).2.2.1 hlegible,
    by decide +kernel, by decide +kernel, hfits⟩

/-- Not every name of a record that is read is shown: no bracket is on the output. -/
theorem not_all_names_shown :
    let j : Json := .obj [
      ("template", .obj [("type", .str "CssBlocks.TemplateInfo"), ("identifier", .str "app.hbs")]),
      ("blocks", .obj []),
      ("stylesFound", .arr [.str "nav[state|open]"]),
      ("dynamicStyles", .arr []),
      ("styleCorrelations", .arr [])]
    let t : FileTree := ⟨[], [(["a.json"], (Json.rendered 0 j).toUTF8)], [[]]⟩
    ∃ record T', readRecord t .initial ⟨.here, ["a.json"]⟩ = .ok record ∧
      "nav[state|open]" ∈ record.stylesFound ∧
      exec (inspect .standard t .initial ⟨.here, ["a.json"]⟩) ⟨"", "", [], []⟩ = (.ok (), T') ∧
      '[' ∉ T'.output.toList := by
  intro j t
  let record : Record := ⟨⟨.base, .str "app.hbs", []⟩, [], ["nav[state|open]"], [], []⟩
  have hL : Console.standard.Documented := Console.documented_standard
  have hplain : j.IsPlain := by
    simp [j, Json.IsPlain, Json.IsPlainFields, Json.IsPlainList, Entries.keys]
  have hread : readRecord t .initial ⟨.here, ["a.json"]⟩ = .ok record :=
    readRecord_rendered hplain rfl rfl
  have hfront : ∀ s ∈ ["app.hbs", "(CssBlocks.TemplateInfo)", "nav"],
      IsFront Console.standard.isEmoji s.toList := by
    have hall : ∀ s ∈ ["app.hbs", "(CssBlocks.TemplateInfo)", "nav"], isOrdinaryText s = true := by
      decide +kernel
    exact fun s hs => isFront_of_isOrdinaryText (hall s hs)
  have hname : Console.standard.markup "nav[state|open]" = .ok "nav" :=
    hL.hidden "nav".toList "state|open".toList [] (hfront "nav" (by decide))
      ⟨by decide, List.all_iff_forall_prop.1 (by decide)⟩ (by decide) .nil
  have hsheet : ReadsAs .standard record
      ⟨"app.hbs (CssBlocks.TemplateInfo)", [], ["nav"], []⟩ := {
    headline := markup_headline hL (hfront "app.hbs" (by decide))
      (hfront "(CssBlocks.TemplateInfo)" (by decide)).toIsPlain
    blocks := .nil
    styles := .cons hname .nil
    correlations := .nil }
  refine ⟨record, _, hread, List.mem_singleton_self _,
    (exec_inspect_eq_ok_iff hL hread).2 ⟨_, hsheet, rfl⟩, ?_⟩
  unfold reportText
  simp only [String.toList_append, List.mem_append, not_or]
  exact ⟨by decide, ⟨⟨⟨not_mem_joinLines (by decide) (by decide +kernel),
    not_mem_joinLines (by decide) (by decide +kernel)⟩,
    not_mem_joinLines (by decide) (by decide +kernel)⟩,
    not_mem_joinLines (by decide) (by decide +kernel)⟩, by decide⟩

end StyleUsage.Command
