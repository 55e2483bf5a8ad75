import StyleUsage.Proofs.Report.Table
import StyleUsage.Report.Console

/-!
# What consoles are relied on for

Reports are written for any console that does what is documented of consoles (`Console.Documented`):
tags of markup are not shown and other texts are, paragraphs are broken at blanks, and tables have
room for what fits into their columns. A console with lines of a width is one of them
(`Console.documented_ofWidth`).
-/

namespace StyleUsage.Report

open Text (Solid)

namespace Console

variable {c : Console}

structure Documented (c : Console) : Prop where
  /-- Texts are shown as they are, those in a manner of writing without its tags. -/
  styled : ∀ (parts : List Styled) (tail : List Char), (∀ p ∈ parts, p.IsSound c.isEmoji) →
    Report.IsPlain c.isEmoji tail →
    c.markup (String.ofList (parts.flatMap Styled.markup ++ tail)) =
      .ok (String.ofList (parts.flatMap Styled.shown ++ tail))
  /-- A part in brackets is taken as a tag, and is not shown. -/
  hidden : ∀ front body back, IsFront c.isEmoji front → IsBody body → body.head? ≠ some '/' →
    Report.IsPlain c.isEmoji back →
    c.markup (String.ofList (front ++ '[' :: (body ++ ']' :: back))) =
      .ok (String.ofList (front ++ back))
  /-- A tag that closes what was not opened is a fault. -/
  unopened : ∀ front body back, IsFront c.isEmoji front → (∀ d ∈ body, IsInside d) →
    HasNoTag back →
    ∃ e, c.markup (String.ofList (front ++ '[' :: ('/' :: body ++ ']' :: back))) = .error e
  /-- A paragraph has the text on its lines, but for blanks at their ends. -/
  paragraph : ∀ s : String, '\t' ∉ s.toList → IsEven s.toList → Shows (c.paragraph s) s.toList
  /-- A text that fits is one line. -/
  line : ∀ s : String, Solid s.toList → Text.columns s.toList ≤ c.width →
    c.paragraph s = s ++ "\n"
  /-- A table has its rows one below the other, with the texts for which there is room. -/
  table : ∀ t : Table, t.IsShownBy c.width (c.table t)

/-! ## Markup -/

/-- A text that a console shows as it is. -/
abbrev IsPlain (c : Console) (s : String) : Prop := Report.IsPlain c.isEmoji s.toList

/-- A text that a console can read as markup. -/
def IsMarkup (c : Console) (s : String) : Prop := ∃ text, c.markup s = .ok text

theorem Documented.markup_of_isPlain (hc : c.Documented) {s : String} (h : c.IsPlain s) :
    c.markup s = .ok s := by
  have hnone := hc.styled [] s.toList nofun h
  rwa [List.flatMap_nil, List.nil_append, List.flatMap_nil, List.nil_append,
    String.ofList_toList] at hnone

theorem Documented.markup_tagged (hc : c.Documented) {tag text : String}
    (htag : IsTagName tag.toList) (htext : IsFront c.isEmoji text.toList) :
    c.markup ("[" ++ tag ++ "]" ++ text ++ "[/" ++ tag ++ "]") = .ok text := by
  have h := hc.styled [⟨[], tag.toList, text.toList⟩] []
    (List.forall_mem_singleton.2 ⟨⟨.nil, nofun⟩, htag, htext⟩) .nil
  have hmarkup : "[" ++ tag ++ "]" ++ text ++ "[/" ++ tag ++ "]" =
      String.ofList ([(⟨[], tag.toList, text.toList⟩ : Styled)].flatMap Styled.markup ++ []) := by
    simp [Styled.markup, ← String.toList_inj]
  have hshown : text =
      String.ofList ([(⟨[], tag.toList, text.toList⟩ : Styled)].flatMap Styled.shown ++ []) := by
    simp [Styled.shown]
  rw [hmarkup, h, ← hshown]

/-! ## Tables -/

/-- A table with plain headings is shown with what the markup of its cells shows. -/
theorem Documented.shownTable_eq_ok_iff (hc : c.Documented) {t t' : Table}
    (htitle : c.IsPlain t.title) (hheadings : ∀ column ∈ t.columns, c.IsPlain column.heading) :
    c.shownTable t = .ok t' ↔
      ∃ rows, List.Forall₂ (List.Forall₂ fun cell cell' => c.markup cell = .ok cell') t.rows rows ∧
        { t with rows } = t' := by
  have hcolumns : t.columns.mapM (fun column => do
      let heading ← c.markup column.heading
      .ok { column with heading }) = .ok (t.columns.map id) :=
    mapM_eq_pure fun column hcolumn => by
      rw [hc.markup_of_isPlain (hheadings column hcolumn)]
      rfl
  unfold shownTable
  rw [hcolumns, List.map_id]
  show (t.rows.mapM (fun row => row.mapM c.markup) >>= _) = _ ↔ _
  rw [hc.markup_of_isPlain htitle, bind_eq_ok_iff]
  refine exists_congr fun rows => and_congr ?_ ⟨Except.ok.inj, congrArg Except.ok⟩
  simp only [mapM_eq_ok_iff]

/-! ## Consoles of a width -/

theorem isEmoji_ofWidth (width : Nat) : (ofWidth width).isEmoji = Text.isEmoji := by
  dsimp only [ofWidth]

theorem documented_ofWidth {width : Nat} (hwidth : 2 ≤ width) : (ofWidth width).Documented where
  styled := by
    intro parts tail hparts htail
    rw [isEmoji_ofWidth] at hparts htail
    show (plainText _).map String.ofList = _
    rw [plainText_styled hparts htail]
    rfl
  hidden := by
    intro front body back hfront hbody hslash hback
    rw [isEmoji_ofWidth] at hfront hback
    show (plainText _).map String.ofList = _
    rw [plainText_hidden hfront hbody hslash hback]
    rfl
  unopened := by
    intro front body back hfront hbody hback
    rw [isEmoji_ofWidth] at hfront
    obtain ⟨e, he⟩ := exists_plainText_unopened hfront hbody hback
    refine ⟨e, ?_⟩
    show (plainText _).map String.ofList = _
    rw [he]
    rfl
  paragraph _ htab heven := shows_wrapped hwidth htab heven
  line s hsolid hfits := by
    rw [← String.toList_inj, String.toList_append]
    exact wrapped_of_fits (by omega) hsolid hfits
  table t := t.isShownBy_layOut width

theorem documented_standard : standard.Documented := documented_ofWidth (by decide)

end Console

end StyleUsage.Report
