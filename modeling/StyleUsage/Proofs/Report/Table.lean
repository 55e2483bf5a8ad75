import StyleUsage.Proofs.Collection.Traversal
import StyleUsage.Proofs.Report.Line
import StyleUsage.Report.Table

/-!
# Tables show their cells

A cell stands in its column on the lines of its row, as its text is broken into lines; no more than
blanks are lost, unless a line of it is too long for the column and is shortened
(`shownOn_cellLines`). Columns are made narrower from the widest one on, so no column gets narrower
than a level at which all of them fit (`min_le_columnWidths`). A cell whose words fit into its
column at such a level is therefore shown, and a table shows its rows one below the other
(`Table.isShownBy_layOut`).
-/

namespace StyleUsage.Report

open Text (charWidth columns isBlank stripEnd Solid)

/-! ## Cells -/

/-- No line of a cell is too long for a column of a width. -/
def LinesFit (width : Nat) (cs : List Char) : Prop :=
  ∀ line ∈ setLines (width - padding) false cs, columns line ≤ width - padding

/-- A cell fits into a column of a width: on one line as it is, or word by word if no character is
wide. -/
structure FitsInto (width : Nat) (cs : List Char) : Prop where
  noTab : '\t' ∉ cs
  fits : Solid cs ∧ columns cs + padding ≤ width ∨
    (∀ c ∈ cs, charWidth c ≤ 1) ∧ ∀ part ∈ Text.parts '\n' cs, ∀ word ∈ words part,
      columns (stripEnd word) + padding ≤ width

theorem FitsInto.mono {width width' : Nat} {cs : List Char} (h : FitsInto width cs)
    (hle : width ≤ width') : FitsInto width' cs where
  noTab := h.noTab
  fits := h.fits.imp (And.imp_right fun hcs => Nat.le_trans hcs hle)
    (And.imp_right fun hwords part hpart word hword =>
      Nat.le_trans (hwords part hpart word hword) hle)

theorem FitsInto.linesFit {width : Nat} {cs : List Char} (h : FitsInto width cs) :
    LinesFit width cs := by
  intro line hline
  rcases h.fits with ⟨hsolid, hcolumns⟩ | ⟨hnarrow, hwords⟩
  · have hroom : columns cs ≤ width - padding := Nat.le_sub_of_add_le hcolumns
    rw [setLines_of_fits hsolid hroom, List.mem_singleton] at hline
    rwa [hline]
  · obtain ⟨part, hpart, filled, hfilled, rfl⟩ := (mem_setLines_iff h.noTab).1 hline
    have hroom : ∀ word ∈ words part, columns (stripEnd word) ≤ width - padding :=
      fun word hword => Nat.le_sub_of_add_le (hwords part hpart word hword)
    refine columns_dropExcess_le (fun c hc => ?_) (columns_of_mem_fill
      (fun h => absurd h Bool.false_ne_true) (.inr hroom) hfilled)
    have hmem : c ∈ part := by
      rw [← flatten_fill (width - padding) false part]
      exact List.mem_flatten_of_mem hfilled hc
    exact hnarrow c (Text.mem_of_mem_parts hpart hmem)

theorem align_left {width : Nat} {cs : List Char} (h : columns cs ≤ width) :
    align .left width cs = cs ++ List.replicate (width - columns cs) ' ' := by
  unfold align shorten
  dsimp only
  rw [if_pos rfl, if_neg (Nat.not_lt.2 h)]
  rfl

/-- A cell that fits is shown behind a space. -/
theorem shownOn_cellLines {width : Nat} {cs : List Char} (htab : '\t' ∉ cs)
    (hfits : LinesFit width cs) : ShownOn [' '] (cellLines .left width cs) cs := by
  refine shownOn_setLines htab fun line hline => ?_
  have hblanks : ∀ c ∈ List.replicate (width - padding - columns line) ' ' ++ [' '],
      isBlank c = true := by
    intro c hc
    rcases List.mem_append.1 hc with hc | hc
    · rw [List.eq_of_mem_replicate hc]
      rfl
    · rw [List.mem_singleton.1 hc]
      rfl
  rw [align_left (hfits line hline)]
  show stripEnd (' ' :: (line ++ _) ++ [' ']) = stripEnd (' ' :: line)
  rw [← List.cons_append, List.append_assoc, Text.stripEnd_append_of_blank hblanks]

/-! ## Maxima and sums -/

theorem init_le_foldl_max (ns : List Nat) (init : Nat) : init ≤ ns.foldl max init := by
  induction ns generalizing init with
  | nil => exact Nat.le_refl init
  | cons n ns ih => exact Nat.le_trans (Nat.le_max_left init n) (ih _)

theorem le_foldl_max {ns : List Nat} {n : Nat} (h : n ∈ ns) (init : Nat) :
    n ≤ ns.foldl max init := by
  induction ns generalizing init with
  | nil => cases h
  | cons m ns ih =>
    rcases List.mem_cons.1 h with rfl | h
    · exact Nat.le_trans (Nat.le_max_right init n) (init_le_foldl_max ns _)
    · exact ih h _

theorem foldl_max_lt {ns : List Nat} {init bound : Nat} (hinit : init < bound)
    (h : ∀ n ∈ ns, n < bound) : ns.foldl max init < bound := by
  induction ns generalizing init with
  | nil => exact hinit
  | cons n ns ih =>
    obtain ⟨hn, hns⟩ := List.forall_mem_cons.1 h
    exact ih (Nat.max_lt.2 ⟨hinit, hn⟩) hns

theorem foldl_max_map_min (ns : List Nat) (init most : Nat) :
    (ns.map fun n => min n most).foldl max (min init most) = min (ns.foldl max init) most := by
  induction ns generalizing init with
  | nil => rfl
  | cons n ns ih =>
    have hstep : max (min init most) (min n most) = min (max init n) most := by omega
    rw [List.map_cons, List.foldl_cons, List.foldl_cons, hstep, ih]

@[simp] theorem total_nil : total [] = 0 := rfl

@[simp] theorem total_cons (n : Nat) (ns : List Nat) : total (n :: ns) = n + total ns := rfl

theorem le_total {ns : List Nat} {n : Nat} (h : n ∈ ns) : n ≤ total ns := by
  induction ns with
  | nil => cases h
  | cons m ns ih =>
    rw [total_cons]
    rcases List.mem_cons.1 h with rfl | h
    · omega
    · have := ih h
      omega

/-! ## Widths -/

theorem divNearest_le {num den bound : Nat} (hden : 0 < den) (h : num ≤ bound * den) :
    Decimal.divNearest num den ≤ bound := by
  have hq : num / den ≤ bound := Nat.div_le_of_le_mul (by rwa [Nat.mul_comm])
  by_cases heq : num / den = bound
  · have hrest : num % den = 0 := by
      have hsplit := Nat.div_add_mod num den
      rw [heq, Nat.mul_comm] at hsplit
      omega
    unfold Decimal.divNearest
    dsimp only
    rw [hrest, if_pos (by omega)]
    exact hq
  · unfold Decimal.divNearest
    dsimp only
    split
    · exact hq
    · split
      · omega
      · split <;> omega

/-- An even share leaves no more than even shares for the others. -/
theorem sub_divNearest_le {num n bound : Nat} (h : num ≤ bound * (n + 1)) :
    num - Decimal.divNearest num (n + 1) ≤ bound * n := by
  have hsplit := Nat.div_add_mod num (n + 1)
  have hrest : num % (n + 1) < n + 1 := Nat.mod_lt _ (Nat.succ_pos n)
  have hshare : num / (n + 1) ≤ Decimal.divNearest num (n + 1) := by
    unfold Decimal.divNearest
    dsimp only
    repeat' split
    all_goals omega
  generalize num / (n + 1) = q at hsplit hshare
  rw [Nat.add_mul, Nat.one_mul] at hsplit
  have hleft : num - Decimal.divNearest num (n + 1) ≤ n * q + num % (n + 1) := by omega
  refine Nat.le_trans hleft ?_
  rcases Nat.lt_or_ge q bound with hlt | hge
  · have hmul : n * (q + 1) ≤ n * bound := Nat.mul_le_mul_left n hlt
    rw [Nat.mul_add, Nat.mul_one, Nat.mul_comm n bound] at hmul
    omega
  · have hmul : n * bound ≤ n * q := Nat.mul_le_mul_left n hge
    rw [Nat.mul_add, Nat.mul_one, Nat.mul_comm bound n] at h
    rw [Nat.mul_comm bound n]
    omega

/-- The entries of one step: the widest columns may become narrower by at most `step`. -/
def topEntries (top step : Nat) (widths : List Nat) : List (Nat × Nat × Nat) :=
  widths.map fun w => (if w = top then 1 else 0, step, w)

theorem takeOff_topEntries_cons {top step remaining ratioLeft w : Nat} {widths : List Nat}
    (hstep : step ≠ 0) : takeOff remaining ratioLeft (topEntries top step (w :: widths)) =
      if w = top then
        (w - min step (Decimal.divNearest remaining ratioLeft)) ::
          takeOff (remaining - min step (Decimal.divNearest remaining ratioLeft)) (ratioLeft - 1)
            (topEntries top step widths)
      else w :: takeOff remaining ratioLeft (topEntries top step widths) := by
  unfold topEntries
  rw [List.map_cons, takeOff]
  by_cases hw : w = top
  · rw [if_pos hw, if_pos hw, if_pos ⟨by decide, hstep⟩, Nat.one_mul]
  · rw [if_neg hw, if_neg hw, if_neg (by simp)]

theorem reduceBy_topEntries {top step excess : Nat} {widths : List Nat} (hstep : step ≠ 0) :
    reduceBy excess (topEntries top step widths) =
      takeOff excess (widths.count top) (topEntries top step widths) := by
  unfold reduceBy
  dsimp only
  congr 1
  induction widths with
  | nil => rfl
  | cons w widths ih =>
    have ih' := ih
    unfold topEntries at ih' ⊢
    rw [List.map_cons, List.map_cons, total_cons, ih', List.count_cons]
    dsimp only
    rw [if_neg hstep, Nat.add_comm]
    simp

/-- A step leaves what is below a level, if its part of each widest column ends above the level. -/
theorem map_min_takeOff {level top step remaining : Nat} {widths : List Nat} (hstep : step ≠ 0)
    (hlevel : level ≤ top)
    (h : step ≤ top - level ∨ remaining ≤ (top - level) * widths.count top) :
    (takeOff remaining (widths.count top) (topEntries top step widths)).map (min level) =
      widths.map (min level) := by
  induction widths generalizing remaining with
  | nil => rfl
  | cons w widths ih =>
    rw [takeOff_topEntries_cons hstep]
    by_cases hw : w = top
    · subst hw
      rw [List.count_cons_self] at h ⊢
      generalize hshare : min step (Decimal.divNearest remaining (widths.count w + 1)) = share
      have hle : share ≤ w - level := by
        rcases h with h | h
        · omega
        · have hnearest := divNearest_le (Nat.zero_lt_succ (widths.count w)) h
          exact Nat.le_trans (hshare ▸ Nat.min_le_right _ _) hnearest
      have hrest : step ≤ w - level ∨ remaining - share ≤ (w - level) * widths.count w := by
        rcases Nat.lt_or_ge (w - level) step with hlarge | hsmall
        · have h := h.resolve_left (Nat.not_le.2 hlarge)
          have hnearest := divNearest_le (Nat.zero_lt_succ (widths.count w)) h
          have heq : share = Decimal.divNearest remaining (widths.count w + 1) :=
            hshare ▸ Nat.min_eq_right (Nat.le_of_lt (Nat.lt_of_le_of_lt hnearest hlarge))
          rw [heq]
          exact .inr (sub_divNearest_le h)
        · exact .inl hsmall
      rw [if_pos rfl, Nat.add_sub_cancel, List.map_cons, List.map_cons, ih hrest]
      congr 1
      omega
    · rw [List.count_cons_of_ne hw] at h ⊢
      rw [if_neg hw, List.map_cons, List.map_cons, ih h]

theorem total_takeOff_le (remaining ratioLeft : Nat) (entries : List (Nat × Nat × Nat)) :
    total (takeOff remaining ratioLeft entries) ≤ total (entries.map fun e => e.2.2) := by
  induction entries generalizing remaining ratioLeft with
  | nil => exact Nat.le_refl 0
  | cons entry entries ih =>
    obtain ⟨ratio, most, value⟩ := entry
    unfold takeOff
    rw [List.map_cons, total_cons]
    split
    · exact Nat.add_le_add (Nat.sub_le _ _) (ih _ _)
    · exact Nat.add_le_add_left (ih _ _) _

theorem map_value_topEntries (top step : Nat) (widths : List Nat) :
    (topEntries top step widths).map (fun e => e.2.2) = widths := by
  unfold topEntries
  rw [List.map_map]
  exact List.map_id widths

/-- If something is to be taken off, the last of the widest columns at least gives a part of it. -/
theorem total_takeOff_lt {top step remaining : Nat} {widths : List Nat} (hstep : step ≠ 0)
    (htop : top ≠ 0) (hmem : top ∈ widths) (hremaining : remaining ≠ 0) :
    total (takeOff remaining (widths.count top) (topEntries top step widths)) < total widths := by
  induction widths with
  | nil => cases hmem
  | cons w widths ih =>
    rw [takeOff_topEntries_cons hstep]
    by_cases hw : w = top
    · subst hw
      rw [if_pos rfl, List.count_cons_self, Nat.add_sub_cancel, total_cons, total_cons]
      generalize hshare : min step (Decimal.divNearest remaining (widths.count w + 1)) = share
      have hrest := total_takeOff_le (remaining - share) (widths.count w) (topEntries w step widths)
      rw [map_value_topEntries] at hrest
      by_cases hzero : share = 0
      · have hmem : w ∈ widths := by
          by_contra hnot
          rw [List.count_eq_zero.2 hnot] at hshare
          have hall : Decimal.divNearest remaining (0 + 1) = remaining := by
            simp [Decimal.divNearest, Nat.mod_one]
          omega
        have := ih hmem
        simp only [hzero, Nat.sub_zero]
        omega
      · omega
    · have hmem : top ∈ widths := (List.mem_cons.1 hmem).resolve_left (Ne.symm hw)
      rw [if_neg hw, List.count_cons_of_ne hw, total_cons, total_cons]
      exact Nat.add_lt_add_left (ih hmem) w

theorem foldl_max_mem {ns : List Nat} (h : ns.foldl max 0 ≠ 0) : ns.foldl max 0 ∈ ns := by
  by_contra hnot
  have hlt : ∀ n ∈ ns, n < ns.foldl max 0 := fun n hn =>
    Nat.lt_of_le_of_ne (le_foldl_max hn 0) fun heq => hnot (heq ▸ hn)
  exact Nat.lt_irrefl _ (foldl_max_lt (Nat.pos_of_ne_zero h) hlt)

/-- What a level takes off some widths is taken off the widest ones, if all others are below. -/
theorem total_le_of_level {level top : Nat} {widths : List Nat} (hlevel : level ≤ top)
    (hwidths : ∀ w ∈ widths, w = top ∨ w ≤ level) :
    total widths ≤ total (widths.map (min level)) + (top - level) * widths.count top := by
  induction widths with
  | nil => exact Nat.zero_le _
  | cons w widths ih =>
    obtain ⟨hw, hwidths⟩ := List.forall_mem_cons.1 hwidths
    have ih := ih hwidths
    rw [List.map_cons, total_cons, total_cons]
    by_cases heq : w = top
    · subst heq
      rw [List.count_cons_self, Nat.mul_add, Nat.mul_one]
      omega
    · have hmin : min level w = w := Nat.min_eq_right (hw.resolve_left heq)
      rw [List.count_cons_of_ne heq, hmin]
      omega

theorem map_min_of_le {level : Nat} {widths : List Nat} (h : ∀ w ∈ widths, w ≤ level) :
    widths.map (min level) = widths := by
  rw [List.map_congr_left fun w hw => Nat.min_eq_right (h w hw), List.map_id']

/-- One step of the way to narrower columns. -/
structure Narrows (most top step : Nat) (widths : List Nat) : Prop where
  excess : most < total widths
  le_top : ∀ w ∈ widths, w ≤ top
  top_mem : top ∈ widths
  step_pos : step ≠ 0
  /-- No step goes below the columns that are not among the widest. -/
  step_le : ∀ w ∈ widths, w ≠ top → step ≤ top - w

theorem collapse_succ (most fuel : Nat) (widths : List Nat) :
    collapse most (fuel + 1) widths = widths ∧ total widths ≤ most ∨
      ∃ top step, Narrows most top step widths ∧ collapse most (fuel + 1) widths =
        collapse most fuel (reduceBy (total widths - most) (topEntries top step widths)) := by
  by_cases hexcess : total widths - most = 0
  · refine .inl ⟨?_, Nat.sub_eq_zero_iff_le.1 hexcess⟩
    unfold collapse
    exact if_pos hexcess
  · generalize htop : widths.foldl max 0 = top
    generalize hsecond : (widths.filter (· != top)).foldl max 0 = second
    have hle : ∀ w ∈ widths, w ≤ top := fun w hw => htop ▸ le_foldl_max hw 0
    have hpos : top ≠ 0 := by
      rintro rfl
      have hzero : total widths = 0 := by
        clear htop hsecond hexcess
        induction widths with
        | nil => rfl
        | cons w widths ih =>
          obtain ⟨hw, hrest⟩ := List.forall_mem_cons.1 hle
          rw [total_cons, ih hrest]
          omega
      omega
    have hlower : ∀ w ∈ widths, w ≠ top → w ≤ second := by
      intro w hw hne
      have hmem : w ∈ widths.filter (· != top) := List.mem_filter.2 ⟨hw, bne_iff_ne.2 hne⟩
      exact hsecond ▸ le_foldl_max hmem 0
    have hbelow : second < top := by
      rw [← hsecond]
      refine foldl_max_lt (Nat.pos_of_ne_zero hpos) fun w hw => ?_
      obtain ⟨hmem, hne⟩ := List.mem_filter.1 hw
      exact Nat.lt_of_le_of_ne (hle w hmem) (bne_iff_ne.1 hne)
    have hstep : min (total widths - most) (top - second) ≠ 0 := by omega
    refine .inr ⟨top, min (total widths - most) (top - second), ⟨by omega, hle, ?_, hstep, ?_⟩, ?_⟩
    · rw [← htop] at hpos ⊢
      exact foldl_max_mem hpos
    · intro w hw hne
      have := hlower w hw hne
      omega
    · rw [collapse]
      dsimp only
      rw [if_neg hexcess, htop, hsecond, if_neg hstep]
      rfl

variable {most fuel level top step : Nat} {widths : List Nat}

/-- A step leaves every column what it has at a level at which all columns fit. -/
theorem Narrows.map_min (h : Narrows most top step widths)
    (hlevel : total (widths.map (min level)) ≤ most) :
    (reduceBy (total widths - most) (topEntries top step widths)).map (min level) =
      widths.map (min level) := by
  have hexcess := h.excess
  have habove : level < top := by
    refine Nat.lt_of_not_le fun hle => ?_
    rw [map_min_of_le fun w hw => Nat.le_trans (h.le_top w hw) hle] at hlevel
    omega
  rw [reduceBy_topEntries h.step_pos]
  refine map_min_takeOff h.step_pos (Nat.le_of_lt habove) ?_
  by_cases hstep : step ≤ top - level
  · exact .inl hstep
  · have hwidths : ∀ w ∈ widths, w = top ∨ w ≤ level := by
      intro w hw
      refine Classical.or_iff_not_imp_left.2 fun hne => ?_
      have := h.step_le w hw hne
      omega
    have := total_le_of_level (Nat.le_of_lt habove) hwidths
    exact .inr (by omega)

theorem Narrows.total_lt (h : Narrows most top step widths) :
    total (reduceBy (total widths - most) (topEntries top step widths)) < total widths := by
  have hexcess := h.excess
  have hpos : top ≠ 0 := by
    rintro rfl
    have hnone : widths.map (min 0) = widths := map_min_of_le h.le_top
    have hsum := total_le_of_level (Nat.le_refl 0) fun w hw => .inr (h.le_top w hw)
    have hzero : total (widths.map (min 0)) = 0 := by
      clear hexcess h hnone hsum
      induction widths with
      | nil => rfl
      | cons w widths ih => simp [ih]
    omega
  rw [reduceBy_topEntries h.step_pos]
  exact total_takeOff_lt h.step_pos hpos h.top_mem (by omega)

theorem map_min_collapse (h : total (widths.map (min level)) ≤ most) :
    (collapse most fuel widths).map (min level) = widths.map (min level) := by
  induction fuel generalizing widths with
  | zero => rfl
  | succ fuel ih =>
    rcases collapse_succ most fuel widths with ⟨hsame, -⟩ | ⟨top, step, hnarrows, hstep⟩
    · rw [hsame]
    · rw [hstep, ih (by rwa [hnarrows.map_min h]), hnarrows.map_min h]

/-- Every step takes something off, so the columns fit in the end. -/
theorem total_collapse_le (h : total widths ≤ most + fuel) :
    total (collapse most fuel widths) ≤ most := by
  induction fuel generalizing widths with
  | zero => exact h
  | succ fuel ih =>
    rcases collapse_succ most fuel widths with ⟨hsame, hfits⟩ | ⟨top, step, hnarrows, hstep⟩
    · rwa [hsame]
    · have := hnarrows.total_lt
      rw [hstep]
      exact ih (by omega)

/-- The width of a column that is as wide as its widest cell. -/
def naturalWidth (cells : List (List Char)) : Nat :=
  (cells.map fun cs => widest cs + padding).foldl max 0

theorem columnWidth_eq (most : Nat) (cells : List (List Char)) :
    columnWidth most cells = min (naturalWidth cells) most := by
  have hmap := foldl_max_map_min (cells.map fun cs => widest cs + padding) 0 most
  rw [List.map_map, Nat.zero_min] at hmap
  exact hmap

/-- Where all columns fit at a level, none is made narrower than that. -/
theorem min_le_columnWidths {cells : List (List (List Char))} {k : Nat}
    {column : List (List Char)}
    (hlevel : total (cells.map fun c => min level (naturalWidth c)) ≤ most)
    (hk : cells[k]? = some column) :
    ∃ width, (columnWidths most cells)[k]? = some width ∧
      min level (naturalWidth column) ≤ width := by
  have hmost : ∀ c ∈ cells, min level (naturalWidth c) ≤ most := fun c hc =>
    Nat.le_trans (le_total (List.mem_map.2 ⟨c, hc, rfl⟩)) hlevel
  have hnatural : (cells.map (columnWidth most)).map (min level) =
      cells.map fun c => min level (naturalWidth c) := by
    rw [List.map_map]
    refine List.map_congr_left fun c hc => ?_
    have := hmost c hc
    rw [Function.comp_apply, columnWidth_eq]
    omega
  unfold columnWidths
  dsimp only
  split
  · refine ⟨columnWidth most column, by rw [List.getElem?_map, hk]; rfl, ?_⟩
    have := hmost column (List.mem_of_getElem? hk)
    rw [columnWidth_eq]
    omega
  · rw [if_pos (total_collapse_le (Nat.le_add_left _ _))]
    generalize hwidths : collapse most (total (cells.map (columnWidth most)))
      (cells.map (columnWidth most)) = widths
    have hsame : widths.map (min level) = cells.map fun c => min level (naturalWidth c) := by
      rw [← hwidths, map_min_collapse (hnatural ▸ hlevel), hnatural]
    have hcolumn : (widths[k]?).map (min level) = some (min level (naturalWidth column)) := by
      rw [← List.getElem?_map, hsame, List.getElem?_map, hk]
      rfl
    obtain ⟨w, hw, hmin⟩ := Option.map_eq_some_iff.1 hcolumn
    refine ⟨columnWidth w column, by rw [List.getElem?_zipWith, hw, hk], ?_⟩
    rw [columnWidth_eq]
    omega

/-! ## Rows -/

theorem shownOn_fillCell {above : Bool} {height width : Nat} {lines : List (List Char)}
    {cs : List Char} (h : ShownOn [' '] lines cs) :
    ShownOn [' '] (fillCell above height width lines) cs := by
  have hblank : ShownOn [' '] (List.replicate (height - lines.length) (List.replicate width ' '))
      [] := by
    refine shownOn_nil (List.forall_mem_singleton.2 rfl) fun line hline c hc => ?_
    rw [List.eq_of_mem_replicate hline] at hc
    rw [List.eq_of_mem_replicate hc]
    rfl
  cases above with
  | true => exact hblank.append h
  | false =>
    have happend := h.append hblank
    rwa [List.append_nil] at happend

theorem length_fillCell {above : Bool} {height width : Nat} {lines : List (List Char)}
    (h : lines.length ≤ height) : (fillCell above height width lines).length = height := by
  unfold fillCell
  cases above <;> simp <;> omega

/-- The parts of the lines of a row, those of the first line first. -/
def rowParts (above : Bool) (alignments : List Alignment) (widths : List Nat)
    (cells : List (List Char)) : List (List (List Char)) :=
  let set := List.zipWith (fun (a, w) cs => cellLines a w cs) (alignments.zip widths) cells
  let height := (set.map List.length).foldl max 1
  let full := List.zipWith (fillCell above height) widths set
  (List.range height).map fun n => full.map fun lines => lines.getD n []

theorem rowLines_eq (f : Frame) (above : Bool) (alignments : List Alignment) (widths : List Nat)
    (cells : List (List Char)) :
    rowLines f above alignments widths cells =
      (rowParts above alignments widths cells).map f.line := by
  unfold rowLines rowParts
  rw [List.map_map]
  rfl

theorem shownOn_rowParts {above : Bool} {alignments : List Alignment} {widths : List Nat}
    {cells : List (List Char)} {k width : Nat} {cs : List Char} (hcell : cells[k]? = some cs)
    (halignment : alignments[k]? = some .left) (hwidth : widths[k]? = some width)
    (htab : '\t' ∉ cs) (hfits : LinesFit width cs) :
    ShownOn [' '] ((rowParts above alignments widths cells).map (·.getD k [])) cs := by
  unfold rowParts
  have hset : (List.zipWith (fun (a, w) cs => cellLines a w cs) (alignments.zip widths) cells)[k]? =
      some (cellLines .left width cs) := by
    rw [List.getElem?_zipWith, List.zip, List.getElem?_zipWith, halignment, hwidth, hcell]
  dsimp only
  generalize List.zipWith (fun (a, w) cs => cellLines a w cs) (alignments.zip widths) cells = set
    at hset
  have hheight : (cellLines .left width cs).length ≤ (set.map List.length).foldl max 1 :=
    le_foldl_max (List.mem_map_of_mem (List.mem_of_getElem? hset)) 1
  generalize (set.map List.length).foldl max 1 = height at hheight
  have hfull : (List.zipWith (fillCell above height) widths set)[k]? =
      some (fillCell above height width (cellLines .left width cs)) := by
    rw [List.getElem?_zipWith, hwidth, hset]
  generalize List.zipWith (fillCell above height) widths set = full at hfull
  have hlen := @length_fillCell above height width _ hheight
  have hcolumn : ((List.range height).map fun n => full.map fun lines => lines.getD n []).map
      (·.getD k []) = fillCell above height width (cellLines .left width cs) := by
    rw [List.map_map]
    refine List.ext_getElem (by rw [List.length_map, List.length_range, hlen]) fun n hn hn' => ?_
    rw [List.getElem_map, List.getElem_range, Function.comp_apply, List.getD_eq_getElem?_getD,
      List.getElem?_map, hfull, Option.map_some, Option.getD_some, List.getD_eq_getElem?_getD,
      List.getElem?_eq_getElem hn', Option.getD_some]
  rw [hcolumn]
  exact shownOn_fillCell (shownOn_cellLines htab hfits)

/-! ## Tables -/

/-- Texts stand on a line, one after another. -/
def StandOn : List (List Char) → List Char → Prop
  | [], _ => True
  | text :: rest, line => ∃ before after, line = before ++ text ++ after ∧ StandOn rest after

theorem standOn_intercalate (between : Char) (texts : List (List Char)) (before after : List Char) :
    StandOn texts (before ++ [between].intercalate texts ++ after) := by
  induction texts generalizing before with
  | nil => trivial
  | cons text texts ih =>
    cases texts with
    | nil => exact ⟨before, after, by simp, trivial⟩
    | cons next texts =>
      refine ⟨before, [between] ++ [between].intercalate (next :: texts) ++ after, ?_, ih [between]⟩
      rw [List.intercalate_cons_cons]
      simp

theorem Frame.standOn_line (f : Frame) (cells : List (List Char)) : StandOn cells (f.line cells) :=
  standOn_intercalate f.between cells [f.left] [f.right]

namespace Table

/-- The widths of the columns if each is as wide as its widest cell. -/
def naturalWidths (t : Table) : List Nat :=
  (cellsByColumn (t.columns.map (·.heading.toList)) (t.rows.map (·.map String.toList))).map
    naturalWidth

/-- A table fits into lines of a width if no column is wider than a level. -/
def FitsAt (t : Table) (width level : Nat) : Prop :=
  total (t.naturalWidths.map (min level)) + (t.columns.length + 1) ≤ width

instance (t : Table) (width level : Nat) : Decidable (t.FitsAt width level) :=
  inferInstanceAs (Decidable (_ ≤ _))

/-- Lines of a table that show a row: on each of them stands a part of every cell, and the parts of
a cell in a column on the left show it if it fits into the column at a level at which the whole
table fits. -/
def ShowsRow (t : Table) (width : Nat) (lines : List (List Char)) (row : List String) : Prop :=
  ∃ parts : List (List (List Char)), List.Forall₂ StandOn parts lines ∧
    ∀ k cell natural level, row[k]? = some cell →
      t.columns[k]?.map Column.alignment = some .left → t.naturalWidths[k]? = some natural →
      t.FitsAt width level → FitsInto (min level natural) cell.toList →
      ShownOn [' '] (parts.map (·.getD k [])) cell.toList

/-- A text that shows the rows of a table in lines of a width, one below the other. -/
def IsShownBy (t : Table) (width : Nat) (shown : String) : Prop :=
  ∃ (above : List (List Char)) (rows : List (List (List Char))) (below : List (List Char)),
    shown = joinLines (above ++ rows.flatten ++ below) ∧
      List.Forall₂ (t.ShowsRow width) rows t.rows

theorem isShownBy_layOut (width : Nat) (t : Table) : t.IsShownBy width (t.layOut width) := by
  unfold layOut
  dsimp only
  generalize hcells : cellsByColumn (t.columns.map (·.heading.toList))
    (t.rows.map (·.map String.toList)) = cells
  generalize hwidths : columnWidths (width - (t.columns.length + 1)) cells = widths
  refine ⟨_, _, _, by rw [List.flatMap_def], ?_⟩
  rw [List.map_map, List.forall₂_map_left_iff, List.forall₂_same]
  intro row hrow
  refine ⟨rowParts false (t.columns.map Column.alignment) widths (row.map String.toList), ?_, ?_⟩
  · show List.Forall₂ StandOn _ (rowLines ..)
    rw [rowLines_eq, List.forall₂_map_right_iff, List.forall₂_same]
    exact fun cells _ => Frame.row.standOn_line cells
  · intro k cell natural level hcell hleft hnatural hlevel hfits
    have hlevel : total (cells.map fun c => min level (naturalWidth c)) ≤
        width - (t.columns.length + 1) := by
      unfold FitsAt naturalWidths at hlevel
      rw [hcells, List.map_map] at hlevel
      exact Nat.le_sub_of_add_le hlevel
    obtain ⟨column, hcolumn, rfl⟩ : ∃ column, cells[k]? = some column ∧
        naturalWidth column = natural := by
      unfold naturalWidths at hnatural
      rwa [hcells, List.getElem?_map, Option.map_eq_some_iff] at hnatural
    obtain ⟨w, hw, hle⟩ := min_le_columnWidths hlevel hcolumn
    rw [hwidths] at hw
    exact shownOn_rowParts (by rw [List.getElem?_map, hcell]; rfl)
      (by rw [List.getElem?_map, hleft]) hw hfits.noTab (hfits.mono hle).linesFit

end Table

end StyleUsage.Report
