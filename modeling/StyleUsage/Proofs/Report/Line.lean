import StyleUsage.Proofs.Report.Markup
import StyleUsage.Report.Line
import Mathlib.Data.List.DropRight

/-!
# Lines keep their text

Filling lines moves no character: the lines one after another are the text (`flatten_fill`), and
without its blanks at the end each of them fits into the width (`columns_of_mem_fill`). Only blanks
at the ends of lines are lost or added: the lines show the text (`ShownOn`, `shownOn_setLines`). So
a paragraph shows its text (`shows_wrapped`), and it is the text itself if that fits into one line
(`wrapped_of_fits`).
-/

namespace StyleUsage

namespace Text

theorem charWidth_le (c : Char) : charWidth c ≤ 2 := by
  unfold charWidth
  split
  · decide
  · split
    · decide
    · split <;> decide

@[simp] theorem columns_nil : columns [] = 0 := rfl

@[simp] theorem columns_cons (c : Char) (cs : List Char) :
    columns (c :: cs) = charWidth c + columns cs := rfl

@[simp] theorem columns_append (cs ds : List Char) :
    columns (cs ++ ds) = columns cs + columns ds := by
  induction cs with
  | nil => simp
  | cons c cs ih => simp [ih, Nat.add_assoc]

theorem columns_le_length {cs : List Char} (h : ∀ c ∈ cs, charWidth c ≤ 1) :
    columns cs ≤ cs.length := by
  induction cs with
  | nil => exact Nat.le_refl 0
  | cons c cs ih =>
    obtain ⟨hc, hcs⟩ := List.forall_mem_cons.1 h
    have := ih hcs
    rw [List.length_cons, columns_cons]
    omega

/-- Every character takes a column. -/
def Solid (cs : List Char) : Prop := ∀ c ∈ cs, 0 < charWidth c

theorem Solid.length_le {cs : List Char} (h : Solid cs) : cs.length ≤ columns cs := by
  induction cs with
  | nil => exact Nat.le_refl 0
  | cons c cs ih =>
    obtain ⟨hc, hcs⟩ := List.forall_mem_cons.1 h
    have := ih hcs
    rw [List.length_cons, columns_cons]
    omega

theorem stripEnd_append (cs : List Char) :
    stripEnd cs ++ (cs.reverse.takeWhile isBlank).reverse = cs := by
  unfold stripEnd
  rw [← List.reverse_append, List.takeWhile_append_dropWhile, List.reverse_reverse]

theorem columns_stripEnd_le (cs : List Char) : columns (stripEnd cs) ≤ columns cs := by
  have h := congrArg columns (stripEnd_append cs)
  rw [columns_append] at h
  omega

theorem columns_stripEnd_append_le (cs ds : List Char) :
    columns (stripEnd (cs ++ ds)) ≤ columns cs + columns (stripEnd ds) := by
  unfold stripEnd
  rw [List.reverse_append, List.dropWhile_append]
  split
  · have h := columns_stripEnd_le cs
    unfold stripEnd at h
    omega
  · rw [List.reverse_append, List.reverse_reverse, columns_append]

theorem stripEnd_append_of_blank {cs blanks : List Char} (h : ∀ c ∈ blanks, isBlank c = true) :
    stripEnd (cs ++ blanks) = stripEnd cs := by
  unfold stripEnd
  rw [List.reverse_append, List.dropWhile_append_of_pos fun c hc => h c (List.mem_reverse.1 hc)]

theorem stripEnd_eq_nil {cs : List Char} (h : ∀ c ∈ cs, isBlank c = true) : stripEnd cs = [] :=
  (congrArg stripEnd (List.nil_append cs).symm).trans (stripEnd_append_of_blank h)

theorem isBlank_of_mem_end {cs : List Char} {c : Char}
    (h : c ∈ (cs.reverse.takeWhile isBlank).reverse) : isBlank c = true :=
  List.mem_takeWhile_imp (List.mem_reverse.1 h)

theorem stripEnd_append_stripEnd (front cs : List Char) :
    stripEnd (front ++ stripEnd cs) = stripEnd (front ++ cs) := by
  conv_rhs => rw [← stripEnd_append cs, ← List.append_assoc]
  exact (stripEnd_append_of_blank fun _ => isBlank_of_mem_end).symm

end Text

namespace Report

open Text (charWidth columns isBlank stripEnd Solid)

/-! ## Words -/

theorem flatten_pushToWord (c : Char) (pieces : List (List Char)) :
    (pushToWord c pieces).flatten = c :: pieces.flatten := by
  cases pieces with
  | nil => rfl
  | cons word rest =>
    show (if isBlank c && !word.head?.any isBlank then [c] :: word :: rest
      else (c :: word) :: rest).flatten = _
    split <;> rfl

theorem flatten_words (cs : List Char) : (words cs).flatten = cs := by
  have hpieces : (cs.foldr pushToWord []).flatten = cs := by
    induction cs with
    | nil => rfl
    | cons c cs ih => rw [List.foldr_cons, flatten_pushToWord, ih]
  unfold words
  split
  · next first second rest heq =>
    rw [heq] at hpieces
    split
    · rw [← hpieces]
      simp
    · exact hpieces
  · exact hpieces

/-! ## Filling -/

theorem flatten_chop (width used : Nat) (held cs : List Char) :
    (chop width used held cs).flatten = held.reverse ++ cs := by
  induction cs generalizing used held with
  | nil => simp [chop]
  | cons c cs ih =>
    unfold chop
    split
    · rw [List.flatten_cons, ih]
      simp
    · rw [ih]
      simp

/-- The stretches of a word fit into the width if every character does. -/
theorem columns_of_mem_chop {width used : Nat} {held cs piece : List Char} (hwidth : 2 ≤ width)
    (hused : used = columns held.reverse) (hheld : used ≤ width)
    (h : piece ∈ chop width used held cs) : columns piece ≤ width := by
  induction cs generalizing used held with
  | nil =>
    rw [List.mem_singleton.1 h, ← hused]
    exact hheld
  | cons c cs ih =>
    have hc := Text.charWidth_le c
    unfold chop at h
    split at h
    · rcases List.mem_cons.1 h with rfl | h
      · rw [← hused]
        exact hheld
      · exact ih (by simp) (by omega) h
    · exact ih (by simp [hused]) (by omega) h

namespace Filling

/-- The text of the lines so far. -/
def text (f : Filling) : List Char := (f.current :: f.complete).reverse.flatten

theorem text_eq (f : Filling) : f.text = f.complete.reverse.flatten ++ f.current := by
  unfold text
  simp

theorem text_breakLine (f : Filling) : f.breakLine.text = f.text := by
  unfold breakLine
  split
  · rfl
  · simp [text_eq]

theorem text_append (f : Filling) (cs : List Char) : (f.append cs).text = f.text ++ cs := by
  simp [text_eq, append]

theorem text_foldl_append (f : Filling) (stretches : List (List Char)) :
    (stretches.foldl (fun f piece => f.breakLine.append piece) f).text =
      f.text ++ stretches.flatten := by
  induction stretches generalizing f with
  | nil => simp
  | cons piece stretches ih =>
    rw [List.foldl_cons, ih, text_append, text_breakLine, List.flatten_cons, List.append_assoc]

theorem text_add (width : Nat) (cutting : Bool) (f : Filling) (word : List Char) :
    (f.add width cutting word).text = f.text ++ word := by
  unfold add
  dsimp only
  split
  · exact text_append f word
  · split
    · rw [text_foldl_append, flatten_chop]
      rfl
    · rw [text_append, text_breakLine]

theorem text_foldl_add (width : Nat) (cutting : Bool) (f : Filling) (ws : List (List Char)) :
    (ws.foldl (Filling.add width cutting) f).text = f.text ++ ws.flatten := by
  induction ws generalizing f with
  | nil => simp
  | cons word ws ih => rw [List.foldl_cons, ih, text_add, List.flatten_cons, List.append_assoc]

/-- Every line fits into the width without the blanks at its end. -/
structure Fits (width : Nat) (f : Filling) : Prop where
  complete : ∀ line ∈ f.complete, columns (stripEnd line) ≤ width
  current : columns (stripEnd f.current) ≤ width
  used : f.used = columns f.current

variable {width : Nat} {f : Filling}

theorem Fits.breakLine (h : f.Fits width) : f.breakLine.Fits width := by
  unfold Filling.breakLine
  split
  · exact h
  · exact ⟨List.forall_mem_cons.2 ⟨h.current, h.complete⟩, Nat.zero_le _, rfl⟩

theorem Fits.append {cs : List Char} (h : f.Fits width)
    (hcs : columns (stripEnd (f.current ++ cs)) ≤ width) : (f.append cs).Fits width :=
  ⟨h.complete, hcs, by
    show f.used + columns cs = columns (f.current ++ cs)
    rw [h.used, Text.columns_append]⟩

theorem current_breakLine (f : Filling) : f.breakLine.current = [] := by
  unfold breakLine
  split
  · next h => exact List.isEmpty_iff.1 h
  · rfl

/-- A new line takes whatever fits into the width. -/
theorem Fits.append_breakLine {cs : List Char} (h : f.Fits width)
    (hcs : columns (stripEnd cs) ≤ width) : (f.breakLine.append cs).Fits width :=
  h.breakLine.append (by rwa [current_breakLine])

theorem Fits.foldl_append {stretches : List (List Char)} (h : f.Fits width)
    (hstretches : ∀ piece ∈ stretches, columns (stripEnd piece) ≤ width) :
    (stretches.foldl (fun f piece => f.breakLine.append piece) f).Fits width := by
  induction stretches generalizing f with
  | nil => exact h
  | cons piece stretches ih =>
    obtain ⟨hpiece, hstretches⟩ := List.forall_mem_cons.1 hstretches
    exact ih (h.append_breakLine hpiece) hstretches

theorem Fits.add {cutting : Bool} {word : List Char} (hwidth : cutting = true → 2 ≤ width)
    (hword : cutting = true ∨ columns (stripEnd word) ≤ width) (h : f.Fits width) :
    (f.add width cutting word).Fits width := by
  unfold Filling.add
  dsimp only
  split
  · next hroom =>
    have hcurrent := Text.columns_stripEnd_append_le f.current word
    rw [h.used] at hroom
    exact h.append (Nat.le_trans hcurrent hroom)
  · split
    · next hlong =>
      have hwidth := hwidth (Bool.and_eq_true_iff.1 hlong).2
      exact h.foldl_append fun piece hpiece => Nat.le_trans (Text.columns_stripEnd_le piece)
        (@columns_of_mem_chop width 0 [] word piece hwidth rfl (Nat.zero_le width) hpiece)
    · next hwhole =>
      refine h.append_breakLine (hword.elim (fun hcutting => ?_) id)
      simpa [hcutting] using hwhole

theorem Fits.foldl_add {cutting : Bool} {ws : List (List Char)}
    (hwidth : cutting = true → 2 ≤ width)
    (hws : cutting = true ∨ ∀ word ∈ ws, columns (stripEnd word) ≤ width) (h : f.Fits width) :
    (ws.foldl (Filling.add width cutting) f).Fits width := by
  induction ws generalizing f with
  | nil => exact h
  | cons word ws ih =>
    have hword := hws.imp_right fun hws => hws word List.mem_cons_self
    exact ih (hws.imp_right fun hws => (List.forall_mem_cons.1 hws).2) (h.add hwidth hword)

end Filling

theorem flatten_fill (width : Nat) (cutting : Bool) (cs : List Char) :
    (fill width cutting cs).flatten = cs := by
  have h := Filling.text_foldl_add width cutting ⟨[], [], 0⟩ (words cs)
  rw [flatten_words] at h
  exact h

/-- Each line fits into the width, the blanks at its end apart, if words are cut or fit. -/
theorem columns_of_mem_fill {width : Nat} {cutting : Bool} {cs line : List Char}
    (hwidth : cutting = true → 2 ≤ width)
    (hwords : cutting = true ∨ ∀ word ∈ words cs, columns (stripEnd word) ≤ width)
    (h : line ∈ fill width cutting cs) : columns (stripEnd line) ≤ width := by
  have hfits : ((words cs).foldl (Filling.add width cutting) ⟨[], [], 0⟩).Fits width :=
    Filling.Fits.foldl_add hwidth hwords ⟨nofun, Nat.zero_le _, rfl⟩
  rcases List.mem_cons.1 (List.mem_reverse.1 h) with rfl | h
  · exact hfits.current
  · exact hfits.complete line h

theorem fill_ne_nil (width : Nat) (cutting : Bool) (cs : List Char) : fill width cutting cs ≠ [] :=
  fun h => List.cons_ne_nil _ _ (List.reverse_eq_nil_iff.1 h)

/-! ## Cutting off blanks -/

/-- What is dropped beyond the width are blanks at the end. -/
theorem dropExcess_eq (width : Nat) (cs : List Char) :
    ∃ blanks, dropExcess width cs = stripEnd cs ++ blanks ∧ ∀ c ∈ blanks, isBlank c = true := by
  have hcs := Text.stripEnd_append cs
  have hlen : (stripEnd cs).length + (cs.reverse.takeWhile isBlank).length = cs.length := by
    have h := congrArg List.length hcs
    rwa [List.length_append, List.length_reverse] at h
  unfold dropExcess
  dsimp only
  generalize hk : cs.length - min (cs.reverse.takeWhile isBlank).length (cs.length - width) = k
  have hle : (stripEnd cs).length ≤ k := by omega
  refine ⟨(cs.reverse.takeWhile isBlank).reverse.take (k - (stripEnd cs).length), ?_, ?_⟩
  · conv_lhs => rw [← hcs, List.take_append, List.take_of_length_le hle]
  · exact fun c hc => Text.isBlank_of_mem_end (List.mem_of_mem_take hc)

theorem stripEnd_append_dropExcess (front : List Char) (width : Nat) (cs : List Char) :
    stripEnd (front ++ dropExcess width cs) = stripEnd (front ++ cs) := by
  obtain ⟨blanks, heq, hblanks⟩ := dropExcess_eq width cs
  rw [heq, ← List.append_assoc, Text.stripEnd_append_of_blank hblanks,
    Text.stripEnd_append_stripEnd]

theorem dropExcess_of_length_le {width : Nat} {cs : List Char} (h : cs.length ≤ width) :
    dropExcess width cs = cs := by
  unfold dropExcess
  dsimp only
  rw [Nat.sub_eq_zero_of_le h, Nat.min_zero, Nat.sub_zero, List.take_length]

/-- Without wide characters a line has no more columns than the width once blanks are dropped. -/
theorem columns_dropExcess_le {width : Nat} {cs : List Char} (hnarrow : ∀ c ∈ cs, charWidth c ≤ 1)
    (h : columns (stripEnd cs) ≤ width) : columns (dropExcess width cs) ≤ width := by
  obtain ⟨blanks, heq, hblanks⟩ := dropExcess_eq width cs
  have hlen : (dropExcess width cs).length ≤ max width (stripEnd cs).length := by
    have hend := congrArg List.length (Text.stripEnd_append cs)
    rw [List.length_append, List.length_reverse] at hend
    unfold dropExcess
    dsimp only
    rw [List.length_take]
    omega
  by_cases hle : (dropExcess width cs).length ≤ width
  · exact Nat.le_trans (Text.columns_le_length fun c hc => hnarrow c (List.mem_of_mem_take hc)) hle
  · -- All blanks at the end were dropped.
    rw [heq, List.length_append] at hle hlen
    have hnil : blanks = [] := List.length_eq_zero_iff.1 (by omega)
    rwa [heq, hnil, List.append_nil]

/-! ## Cutting off columns -/

section Search

variable {total : Nat} {cs : List Char}

theorem columns_take_le_of_le {i j : Nat} (h : i ≤ j) :
    columns (cs.take i) ≤ columns (cs.take j) := by
  have happend : cs.take i ++ (cs.take j).drop i = cs.take j := by
    have h' := List.take_append_drop i (cs.take j)
    rwa [List.take_take, Nat.min_eq_left h] at h'
  rw [← happend, Text.columns_append]
  exact Nat.le_add_right _ _

theorem columns_take_succ {i : Nat} (h : i < cs.length) :
    columns (cs.take (i + 1)) = columns (cs.take i) + charWidth cs[i] := by
  rw [List.take_succ_eq_append_getElem h, Text.columns_append]
  rfl

/-- Whether the search would stop at a place since a wide character lies across the end. -/
def Across (total : Nat) (cs : List Char) (i : Nat) : Prop :=
  columns (cs.take (i + 1)) = total + 1 ∧ (cs.take (i + 1)).getLast?.any (charWidth · == 2)

/-- The search keeps the front of a text up to the place where the columns are used up. At its lower
place they are not used up, at its higher place they are. -/
theorem exists_searchEnd (hsolid : Text.Solid cs) (htotal : 2 ≤ total) (hlong : total < columns cs)
    {low high : Nat} (fuel : Nat) (hlow : low = 0 ∨ columns (cs.take (low + 1)) < total)
    (hhigh : high = cs.length ∨
      high < cs.length ∧ total < columns (cs.take (high + 1)) ∧ ¬Across total cs high)
    (hlt : low < high) (hfuel : high - low ≤ fuel) :
    ∃ k, (searchEnd total cs low high fuel = cs.take k ∨
        searchEnd total cs low high fuel = cs.take k ++ [' ']) ∧
      total < columns (cs.take (k + 1)) := by
  induction fuel generalizing low high with
  | zero => omega
  | succ fuel ih =>
    have hle : high ≤ cs.length := hhigh.elim Nat.le_of_eq fun h => Nat.le_of_lt h.1
    have hhalf : 2 * ((low + high) / 2) ≤ low + high ∧ low + high < 2 * ((low + high) / 2) + 2 := by
      omega
    unfold searchEnd
    dsimp only
    generalize (low + high) / 2 = middle at hhalf
    have hmiddleLt : middle < cs.length := by omega
    split
    · next hacross =>
      refine ⟨middle, .inr ?_, by omega⟩
      rw [List.dropLast_eq_take, List.take_take, List.length_take]
      congr 2
      omega
    · next hacross =>
      split
      · next hend =>
        have hroom : middle + 1 < cs.length := by
          refine Nat.lt_of_not_le fun hge => ?_
          rw [List.take_of_length_le hge] at hend
          omega
        have hchar := hsolid _ (List.getElem_mem hroom)
        have hsucc := columns_take_succ hroom
        exact ⟨middle + 1, .inl rfl, by omega⟩
      · next hend =>
        split
        · next hbeyond =>
          -- The middle is beyond the end, so it is not the lower place.
          have hne : low ≠ middle := by
            rintro rfl
            rcases hlow with rfl | hlow
            · have hsucc := columns_take_succ hmiddleLt
              have hchar := Text.charWidth_le cs[0]
              rw [List.take_zero, Text.columns_nil] at hsucc
              omega
            · omega
          exact ih hlow (.inr ⟨hmiddleLt, hbeyond, hacross⟩) (by omega) (by omega)
        · next hbefore =>
          have hshort : columns (cs.take (middle + 1)) < total := by omega
          -- If the places were neighbours, a wide character would lie across the end.
          have hne : middle + 1 ≠ high := by
            rintro rfl
            rcases hhigh with hhigh | ⟨hhighLt, hbeyond, hnot⟩
            · rw [hhigh, List.take_length] at hshort
              omega
            · have hsucc := columns_take_succ hhighLt
              have hchar := Text.charWidth_le cs[middle + 1]
              refine hnot ⟨by omega, ?_⟩
              rw [List.take_succ_eq_append_getElem hhighLt, List.getLast?_concat]
              have hwide : charWidth cs[middle + 1] = 2 := by omega
              exact beq_iff_eq.2 hwide
          exact ih (.inr hshort) hhigh (by omega) (by omega)

theorem takeColumns_of_le (htotal : total ≠ 0) (h : columns cs ≤ total) :
    takeColumns total cs = cs := by
  unfold takeColumns
  rw [if_neg htotal, if_pos h]

/-- Blanks are all that is lost beyond the columns, if the text in front of them fits. -/
theorem stripEnd_takeColumns (hsolid : Text.Solid cs) (htotal : 2 ≤ total)
    (hfits : columns (stripEnd cs) ≤ total) : stripEnd (takeColumns total cs) = stripEnd cs := by
  have htake : ∀ k, (stripEnd cs).length ≤ k → stripEnd (cs.take k) = stripEnd cs := by
    intro k hk
    conv_lhs => rw [← Text.stripEnd_append cs, List.take_append, List.take_of_length_le hk]
    rw [Text.stripEnd_append_of_blank fun c hc => Text.isBlank_of_mem_end (List.mem_of_mem_take hc)]
    exact Text.stripEnd_append_stripEnd [] cs
  unfold takeColumns
  rw [if_neg (by omega)]
  split
  · rfl
  · next hlong =>
    have hlong : total < columns cs := Nat.lt_of_not_le hlong
    have hpos : 0 < cs.length := by
      refine List.length_pos_iff.2 fun hnil => ?_
      rw [hnil] at hlong
      exact Nat.not_lt_zero _ hlong
    obtain ⟨k, hk, hbeyond⟩ := exists_searchEnd hsolid htotal hlong (cs.length + 1)
      (.inl rfl) (.inl rfl) hpos (Nat.le_succ _)
    have hle : (stripEnd cs).length ≤ k := by
      refine Nat.le_of_not_lt fun hlt => ?_
      have hmono : columns (cs.take (k + 1)) ≤ columns (cs.take (stripEnd cs).length) :=
        columns_take_le_of_le hlt
      have hfront : cs.take (stripEnd cs).length = stripEnd cs :=
        List.prefix_iff_eq_take.1 ⟨_, Text.stripEnd_append cs⟩ |>.symm
      rw [hfront] at hmono
      omega
    rcases hk with hk | hk
    · rw [hk, htake k hle]
    · rw [hk, Text.stripEnd_append_of_blank (List.forall_mem_singleton.2 rfl), htake k hle]

end Search

/-! ## Lines that show a text -/

/-- Lines that show a text: it stands on them in pieces, one on each line behind a margin, up to
blanks at the ends of the lines. -/
def ShownOn (margin : List Char) (lines : List (List Char)) (cs : List Char) : Prop :=
  ∃ stretches : List (List Char), stretches.flatten = cs ∧
    List.Forall₂ (fun line stretch => stripEnd line = stripEnd (margin ++ stretch)) lines stretches

section Shown

variable {margin : List Char} {lines lines' : List (List Char)} {cs cs' : List Char}

theorem ShownOn.append (h : ShownOn margin lines cs) (h' : ShownOn margin lines' cs') :
    ShownOn margin (lines ++ lines') (cs ++ cs') := by
  obtain ⟨stretches, rfl, hlines⟩ := h
  obtain ⟨stretches', rfl, hlines'⟩ := h'
  exact ⟨stretches ++ stretches', List.flatten_append, List.rel_append hlines hlines'⟩

theorem shownOn_nil (hmargin : ∀ c ∈ margin, isBlank c = true)
    (h : ∀ line ∈ lines, ∀ c ∈ line, isBlank c = true) : ShownOn margin lines [] := by
  induction lines with
  | nil => exact ⟨[], rfl, .nil⟩
  | cons line lines ih =>
    obtain ⟨hline, hlines⟩ := List.forall_mem_cons.1 h
    have hfirst : ShownOn margin [line] [] :=
      ⟨[[]], rfl, .cons (by
        rw [Text.stripEnd_eq_nil hline, List.append_nil, Text.stripEnd_eq_nil hmargin]) .nil⟩
    exact hfirst.append (ih hlines)

theorem ShownOn.concat_blank {blank : Char} (hblank : isBlank blank = true)
    (h : ShownOn margin lines cs) (hne : lines ≠ []) : ShownOn margin lines (cs ++ [blank]) := by
  obtain ⟨stretches, rfl, hlines⟩ := h
  induction hlines with
  | nil => exact absurd rfl hne
  | cons hline hlines ih =>
    rename_i line stretch lines stretches
    cases lines with
    | nil =>
      cases hlines
      refine ⟨[stretch ++ [blank]], by simp, .cons ?_ .nil⟩
      rw [hline, ← List.append_assoc]
      exact (Text.stripEnd_append_of_blank (by simpa using hblank)).symm
    | cons line' lines =>
      obtain ⟨stretches', heq, hlines'⟩ := ih (List.cons_ne_nil _ _)
      exact ⟨stretch :: stretches', by rw [List.flatten_cons, heq, List.flatten_cons,
        List.append_assoc], .cons hline hlines'⟩

/-- Parts of a text that are shown one after another show the text. -/
theorem shownOn_parts {margin : List Char} {f : List Char → List (List Char)} (cs : List Char)
    (h : ∀ part ∈ Text.parts '\n' cs, f part ≠ [] ∧ ShownOn margin (f part) part) :
    ShownOn margin ((Text.parts '\n' cs).flatMap f) cs := by
  by_cases hnewline : '\n' ∈ cs
  · obtain ⟨front, rest, hcs, hfront⟩ := List.eq_append_cons_of_mem hnewline
    have hlt : rest.length < cs.length := by
      rw [hcs, List.length_append, List.length_cons]
      omega
    rw [hcs, Text.parts_append_cons hfront] at h ⊢
    obtain ⟨⟨hne, hshown⟩, hrest⟩ := List.forall_mem_cons.1 h
    rw [List.append_cons front]
    exact (hshown.concat_blank rfl hne).append (shownOn_parts rest hrest)
  · rw [Text.parts_of_not_mem hnewline] at h ⊢
    rw [List.flatMap_singleton]
    exact (h cs List.mem_cons_self).2
termination_by cs.length

theorem mem_setLines_iff {width : Nat} {cutting : Bool} {line : List Char} (htab : '\t' ∉ cs) :
    line ∈ setLines width cutting cs ↔ ∃ part ∈ Text.parts '\n' cs,
      ∃ filled ∈ fill width cutting part, dropExcess width filled = line := by
  unfold setLines
  rw [List.mem_flatMap]
  refine exists_congr fun part => and_congr_right fun hpart => ?_
  dsimp only
  rw [if_neg fun hmem => htab (Text.mem_of_mem_parts hpart (List.contains_iff_mem.1 hmem)),
    List.mem_map]

/-- The lines of a text show it, also if something is done to each line behind its text. -/
theorem shownOn_setLines {width : Nat} {cutting : Bool} (htab : '\t' ∉ cs)
    {finish : List Char → List Char}
    (h : ∀ line ∈ setLines width cutting cs, stripEnd (finish line) = stripEnd (margin ++ line)) :
    ShownOn margin ((setLines width cutting cs).map finish) cs := by
  have hlines : ∀ part ∈ Text.parts '\n' cs, ∀ filled ∈ fill width cutting part,
      stripEnd (finish (dropExcess width filled)) = stripEnd (margin ++ filled) := by
    intro part hpart filled hfilled
    rw [h _ ((mem_setLines_iff htab).2 ⟨part, hpart, filled, hfilled, rfl⟩),
      stripEnd_append_dropExcess]
  unfold setLines
  rw [List.map_flatMap]
  refine shownOn_parts cs fun part hpart => ?_
  dsimp only
  rw [if_neg fun hmem => htab (Text.mem_of_mem_parts hpart (List.contains_iff_mem.1 hmem)),
    List.map_map]
  refine ⟨fun hnil => fill_ne_nil _ _ _ (List.map_eq_nil_iff.1 hnil),
    fill width cutting part, flatten_fill _ _ _, ?_⟩
  rw [List.forall₂_map_left_iff, List.forall₂_same]
  exact hlines part hpart

end Shown

/-! ## Paragraphs -/

theorem fill_of_fits {width : Nat} {cs : List Char} (cutting : Bool) (h : columns cs ≤ width) :
    fill width cutting cs = [cs] := by
  have hfold : ∀ (ws : List (List Char)) (front : List Char),
      columns (front ++ ws.flatten) ≤ width →
      ws.foldl (Filling.add width cutting) ⟨[], front, columns front⟩ =
        ⟨[], front ++ ws.flatten, columns (front ++ ws.flatten)⟩ := by
    intro ws
    induction ws with
    | nil => simp
    | cons word ws ih =>
      intro front hfits
      have hword := Text.columns_stripEnd_le word
      rw [List.flatten_cons, ← List.append_assoc] at hfits ⊢
      have hroom : columns front + columns (stripEnd word) ≤ width := by
        simp only [Text.columns_append] at hfits
        omega
      have hadd : Filling.add width cutting ⟨[], front, columns front⟩ word =
          ⟨[], front ++ word, columns (front ++ word)⟩ := by
        unfold Filling.add
        dsimp only
        rw [if_pos hroom, Text.columns_append]
        rfl
      rw [List.foldl_cons, hadd, ih _ hfits]
  unfold fill
  dsimp only
  have hwords := hfold (words cs) [] (by rwa [flatten_words])
  rw [flatten_words] at hwords
  rw [show columns [] = 0 from rfl] at hwords
  rw [hwords]
  rfl

theorem setLines_of_solid {cs : List Char} (h : Solid cs) (width : Nat) (cutting : Bool) :
    setLines width cutting cs = (fill width cutting cs).map (dropExcess width) := by
  have hnewline : '\n' ∉ cs := fun hmem => absurd (h _ hmem) (by decide +kernel)
  have htab : ¬cs.contains '\t' = true := fun hmem =>
    absurd (h _ (List.contains_iff_mem.1 hmem)) (by decide +kernel)
  unfold setLines
  rw [Text.parts_of_not_mem hnewline, List.flatMap_singleton]
  dsimp only
  rw [if_neg htab]

theorem setLines_of_fits {cs : List Char} (h : Solid cs) {width : Nat} (hfits : columns cs ≤ width)
    (cutting : Bool) : setLines width cutting cs = [cs] := by
  rw [setLines_of_solid h, fill_of_fits cutting hfits, List.map_singleton,
    dropExcess_of_length_le (Nat.le_trans h.length_le hfits)]

theorem not_mem_joinLines {lines : List (List Char)} {c : Char} (hc : c ≠ '\n')
    (h : ∀ line ∈ lines, c ∉ line) : c ∉ (joinLines lines).toList := by
  unfold joinLines
  rw [String.toList_ofList, List.mem_flatMap]
  rintro ⟨line, hline, hmem⟩
  rcases List.mem_append.1 hmem with hmem | hmem
  · exact h line hline hmem
  · exact hc (List.mem_singleton.1 hmem)

theorem wrapped_of_fits {width : Nat} (hwidth : width ≠ 0) {cs : List Char} (h : Solid cs)
    (hfits : columns cs ≤ width) : (wrapped width cs).toList = cs ++ ['\n'] := by
  unfold wrapped joinLines
  rw [setLines_of_fits h hfits, List.map_singleton, takeColumns_of_le hwidth hfits,
    List.flatMap_singleton, String.toList_ofList]

/-- A text without characters that take no column beside characters that take two. -/
def IsEven (cs : List Char) : Prop :=
  (∀ c ∈ cs, c = '\n' ∨ 0 < charWidth c) ∨ ∀ c ∈ cs, charWidth c ≤ 1

/-- The lines of a paragraph show a text. -/
def Shows (shown : String) (cs : List Char) : Prop :=
  ∃ lines, shown = joinLines lines ∧ ShownOn [] lines cs

theorem shows_wrapped {width : Nat} (hwidth : 2 ≤ width) {cs : List Char} (htab : '\t' ∉ cs)
    (heven : IsEven cs) : Shows (wrapped width cs) cs := by
  refine ⟨_, rfl, shownOn_setLines htab fun line hline => ?_⟩
  obtain ⟨part, hpart, filled, hfilled, rfl⟩ := (mem_setLines_iff htab).1 hline
  have hchars : ∀ c ∈ filled, c ∈ cs ∧ c ≠ '\n' := by
    intro c hc
    have hc : c ∈ part := by
      rw [← flatten_fill width true part]
      exact List.mem_flatten_of_mem hfilled hc
    exact ⟨Text.mem_of_mem_parts hpart hc, fun heq => Text.not_mem_of_mem_parts hpart (heq ▸ hc)⟩
  have hfits : columns (stripEnd filled) ≤ width :=
    columns_of_mem_fill (fun _ => hwidth) (.inl rfl) hfilled
  rcases heven with hsolid | hnarrow
  · refine stripEnd_takeColumns (fun c hc => ?_) hwidth ?_
    · have hc := hchars c (List.mem_of_mem_take hc)
      exact (hsolid c hc.1).resolve_left hc.2
    · have hstrip := stripEnd_append_dropExcess [] width filled
      rw [List.nil_append, List.nil_append] at hstrip
      rwa [hstrip]
  · have hnarrow : ∀ c ∈ filled, charWidth c ≤ 1 := fun c hc => hnarrow c (hchars c hc).1
    rw [takeColumns_of_le (by omega) (columns_dropExcess_le hnarrow hfits)]
    rfl

end Report

end StyleUsage
