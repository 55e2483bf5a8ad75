import StyleUsage.Proofs.Text.Pattern
import StyleUsage.Proofs.Walk.Meaning
import StyleUsage.Proofs.Walk.References

/-!
# Resolved references

A reference is taken apart by two patterns, one for the alias and one for the fragment. On a text
that does not end in a line feed they cut where the first fragment begins (`cut?_reference`), a
position that can be told from the text alone (`SplitsAt`). So the text and the declared blocks tell
what becomes of a reference (`resolve_ok_iff_splitsAt`, `resolve_error_iff`), and as a block has one
style for a fragment, two references that are resolved stand for one style exactly if they are one
text, blanks aside (`stored_resolve_exact`).
-/

namespace StyleUsage

open Text

/-! ## Where a text is split -/

/-- The first character that begins a fragment is at a position other than the first, and no line
feed is behind it. -/
structure SplitsAt (cs : List Char) (n : Nat) : Prop where
  first : cs.findIdx? startsFragment = some n
  pos : 0 < n
  line : '\n' ∉ cs.drop (n + 1)

section Split

variable {cs name fragment : List Char} {n : Nat}

/-- A text is split into a name and a fragment if it is made up of them. -/
theorem splitReference_eq_some_iff : splitReference cs = some (name, fragment) ↔
    cs = name ++ fragment ∧ name ≠ [] ∧ IsPlainName name ∧ BeginsFragment fragment ∧
      '\n' ∉ fragment := by
  unfold splitReference
  dsimp only
  constructor
  · intro h
    split at h
    · cases h
    · next hparts =>
      cases h
      simp only [Bool.or_eq_true, List.isEmpty_iff, List.contains_iff_mem, not_or] at hparts
      obtain ⟨⟨hname, hfragment⟩, hline⟩ := hparts
      exact ⟨List.takeWhile_append_dropWhile.symm, hname, isPlainName_takeWhile cs,
        beginsFragment_dropWhile hfragment, hline⟩
  · rintro ⟨rfl, hname, hplain, hbegins, hline⟩
    obtain ⟨htake, hdrop⟩ := split_append hplain hbegins
    obtain ⟨c, rest, rfl, -⟩ := id hbegins
    rw [htake, hdrop, if_neg]
    simpa [hname] using hline

theorem splitsAt_append (hne : name ≠ []) (hname : IsPlainName name)
    (hfragment : BeginsFragment fragment) (hline : '\n' ∉ fragment) :
    SplitsAt (name ++ fragment) name.length := by
  obtain ⟨c, rest, rfl, hc⟩ := hfragment
  refine ⟨?_, List.length_pos_of_ne_nil hne, ?_⟩
  · rw [List.findIdx?_append, List.findIdx?_eq_none_iff.2 hname, List.findIdx?_cons, if_pos hc]
    simp
  · rw [List.drop_append, List.drop_eq_nil_of_le (Nat.le_succ _), Nat.add_sub_cancel_left]
    exact fun h => hline (List.mem_cons_of_mem c h)

/-- A text is split at the position of the first character that begins a fragment. -/
theorem splitsAt_iff : SplitsAt cs n ↔ splitReference cs = some (cs.take n, cs.drop n) := by
  rw [splitReference_eq_some_iff]
  constructor
  · intro h
    obtain ⟨hlt, hn, hbefore⟩ := List.findIdx?_eq_some_iff_getElem.1 h.first
    refine ⟨(List.take_append_drop n cs).symm, ?_, ?_, ?_, ?_⟩
    · rw [Ne, List.take_eq_nil_iff]
      rintro (rfl | rfl)
      · exact absurd h.pos (Nat.lt_irrefl 0)
      · exact absurd hlt (Nat.not_lt_zero n)
    · intro c hc
      obtain ⟨i, hi, rfl⟩ := List.mem_take_iff_getElem.1 hc
      exact Bool.eq_false_of_not_eq_true (hbefore i (Nat.lt_of_lt_of_le hi (Nat.min_le_left ..)))
    · exact ⟨_, _, List.drop_eq_getElem_cons hlt, hn⟩
    · rw [List.drop_eq_getElem_cons hlt, List.mem_cons, not_or]
      refine ⟨fun heq => ?_, h.line⟩
      rw [← heq] at hn
      cases hn
  · rintro ⟨-, hne, hname, hfragment, hline⟩
    have hle : n ≤ cs.length := by
      obtain ⟨c, rest, hcons, -⟩ := hfragment
      have hlength := congrArg List.length hcons
      rw [List.length_drop, List.length_cons] at hlength
      omega
    have h := splitsAt_append hne hname hfragment hline
    rwa [List.take_append_drop, List.length_take_of_le hle] at h

theorem SplitsAt.unique {m : Nat} (h : SplitsAt cs n) (h' : SplitsAt cs m) : n = m :=
  Option.some.inj (h.first.symm.trans h'.first)

/-- A text is split at one position, or there is none. -/
theorem splitReference_cases (cs : List Char) :
    (∃ n, SplitsAt cs n ∧ splitReference cs = some (cs.take n, cs.drop n)) ∨
      (∀ n, ¬SplitsAt cs n) ∧ splitReference cs = none := by
  cases h : splitReference cs with
  | none =>
    refine .inr ⟨fun n hn => ?_, rfl⟩
    rw [splitsAt_iff.1 hn] at h
    cases h
  | some p =>
    obtain ⟨name, fragment⟩ := p
    obtain ⟨rfl, hne, hname, hfragment, hline⟩ := splitReference_eq_some_iff.1 h
    refine .inl ⟨name.length, splitsAt_append hne hname hfragment hline, ?_⟩
    rw [List.take_left, List.drop_left]

theorem splitReference_eq_some_iff_splitsAt : splitReference cs = some (name, fragment) ↔
    ∃ n, SplitsAt cs n ∧ name = cs.take n ∧ fragment = cs.drop n := by
  constructor
  · intro h
    rcases splitReference_cases cs with ⟨n, hn, heq⟩ | ⟨-, hnone⟩
    · rw [heq] at h
      cases h
      exact ⟨n, hn, rfl, rfl⟩
    · rw [hnone] at h
      cases h
  · rintro ⟨n, hn, rfl, rfl⟩
    exact splitsAt_iff.1 hn

/-! ## The pattern of references -/

/-- An alias: characters none of which begins a fragment, and one at least. -/
def namePattern : Pattern :=
  .followed (.one fun c => !startsFragment c) (.many fun c => !startsFragment c)

/-- A fragment: a character that begins one, and characters behind it that are no line feeds. -/
def fragmentPattern : Pattern := .followed (.one startsFragment) (.many (· != '\n'))

theorem matches_namePattern : namePattern.Matches name ↔ name ≠ [] ∧ IsPlainName name := by
  unfold namePattern IsPlainName
  simp only [Pattern.matches_one_followed_many_iff, Bool.not_eq_true']
  constructor
  · rintro ⟨c, rest, rfl, hc, hrest⟩
    exact ⟨List.cons_ne_nil c rest, List.forall_mem_cons.2 ⟨hc, hrest⟩⟩
  · rintro ⟨hne, hplain⟩
    obtain ⟨c, rest, rfl⟩ := List.exists_cons_of_ne_nil hne
    exact ⟨c, rest, rfl, List.forall_mem_cons.1 hplain⟩

theorem matches_fragmentPattern :
    fragmentPattern.Matches fragment ↔ BeginsFragment fragment ∧ '\n' ∉ fragment := by
  unfold fragmentPattern BeginsFragment
  simp only [Pattern.matches_one_followed_many_iff, bne_iff_ne]
  constructor
  · rintro ⟨c, rest, rfl, hc, hrest⟩
    refine ⟨⟨c, rest, rfl, hc⟩, fun hmem => ?_⟩
    rcases List.mem_cons.1 hmem with rfl | hmem
    · cases hc
    · exact hrest _ hmem rfl
  · rintro ⟨⟨c, rest, rfl, hc⟩, hline⟩
    refine ⟨c, rest, rfl, hc, ?_⟩
    rintro a ha rfl
    exact hline (List.mem_cons_of_mem c ha)

/-- The patterns cut a text that does not end in a line feed where it is split. -/
theorem cut?_reference (hend : cs.getLast? ≠ some '\n') :
    Pattern.cut? namePattern fragmentPattern cs = splitReference cs := by
  -- What the patterns match up to the end is what the text is split into, so there is one way only.
  have hsplit : ∀ {name fragment},
      Pattern.cut? namePattern fragmentPattern cs = some (name, fragment) →
        splitReference cs = some (name, fragment) := by
    intro name fragment h
    obtain ⟨rest, hrest, hcs, hname, hfragment⟩ := Pattern.cut?_sound h
    obtain ⟨hne, hplain⟩ := matches_namePattern.1 hname
    obtain ⟨hbegins, hline⟩ := matches_fragmentPattern.1 hfragment
    have hnil : rest = [] := by
      simp only [Pattern.isEnd, Bool.or_eq_true, beq_iff_eq] at hrest
      rcases hrest with rfl | rfl
      · rfl
      · rw [hcs, ← List.append_assoc] at hend
        exact absurd List.getLast?_concat hend
    rw [hnil, List.append_nil] at hcs
    exact splitReference_eq_some_iff.2 ⟨hcs, hne, hplain, hbegins, hline⟩
  cases hcut : Pattern.cut? namePattern fragmentPattern cs with
  | some p => exact (hsplit hcut).symm
  | none =>
    cases h : splitReference cs with
    | none => rfl
    | some p =>
      obtain ⟨name, fragment⟩ := p
      obtain ⟨hcs, hne, hplain, hbegins, hline⟩ := splitReference_eq_some_iff.1 h
      rw [← List.append_nil fragment] at hcs
      obtain ⟨p, hp⟩ := Pattern.exists_cut? rfl hcs (matches_namePattern.2 ⟨hne, hplain⟩)
        (matches_fragmentPattern.2 ⟨hbegins, hline⟩)
      rw [hcut] at hp
      cases hp

end Split

/-- Without the blanks around it a text does not end in a blank. -/
theorem Text.getLast?_stripChars {cs : List Char} {c : Char}
    (h : (stripChars cs).getLast? = some c) : isBlank c = false := by
  unfold stripChars stripEnd at h
  rw [List.getLast?_reverse] at h
  have hhead := List.head?_dropWhile_not isBlank (cs.dropWhile isBlank).reverse
  rw [h] at hhead
  exact hhead

theorem cut?_stripChars (cs : List Char) :
    Pattern.cut? namePattern fragmentPattern (stripChars cs) = splitReference (stripChars cs) :=
  cut?_reference fun h => nomatch getLast?_stripChars h

/-- The alias and the fragment that a text is split into at a position. -/
def partsAt (cs : List Char) (n : Nat) : StyleRef :=
  ⟨String.ofList (cs.take n), String.ofList (cs.drop n)⟩

theorem append_partsAt (reference : String) (n : Nat) :
    (partsAt (stripChars reference.toList) n).block ++
      (partsAt (stripChars reference.toList) n).fragment = strip reference := by
  unfold partsAt strip
  rw [← String.ofList_append, List.take_append_drop]

/-! ## The single style for a fragment -/

namespace StoredBlocks

/-- The alias is that of a block, the style is the one that the block knows of for the fragment, and
in the whole store there is no other one of this block and this fragment. -/
def IsSingle (w : StoredBlocks) (x : StyleRef) (i : StyleId) : Prop :=
  ∃ b, w.IsBlock x.block b ∧ Entries.get? (w.store.block b).styles x.fragment = some i ∧
    ∀ j : StyleId, j.index < w.store.styles.length ∧ (w.store.style j).owner = b ∧
      (w.store.style j).fragment = x.fragment ↔ j = i

variable {w : StoredBlocks} {declared : Entries String BlockDeclaration} {x : StyleRef}
  {i : StyleId}

theorem noTwins_ofDeclared (declared : Entries String BlockDeclaration) :
    (ofDeclared declared).store.NoTwins := by
  induction declared using List.reverseRecOn with
  | nil => exact BlockStore.noTwins_empty
  | append_singleton declared p ih =>
    unfold ofDeclared at ih ⊢
    rw [List.foldl_append]
    exact (ih.addBlock p.2.source false).makeStyles (BlockStore.index_addBlock_lt ..) _

/-- The style of an alias and a fragment is a single one. -/
theorem Holds.isSingle (h : w.Holds declared) (hw : w.store.NoTwins) (hi : w.IsStyle x i) :
    w.IsSingle x i := by
  obtain ⟨b, hb, hi⟩ := hi
  have hlt := h.wellFormed.style_lt hi
  obtain ⟨howner, hfragment⟩ := h.wellFormed.style_eq hi
  refine ⟨b, hb, hi, fun j => ⟨?_, ?_⟩⟩
  · rintro ⟨hj, howner', hfragment'⟩
    exact hw.eq hj hlt (howner'.trans howner.symm) (hfragment'.trans hfragment.symm)
  · rintro rfl
    exact ⟨hlt, howner, hfragment⟩

end StoredBlocks

namespace WalkScript

variable {s : WalkScript} {reference : String} {n : Nat} {x : StyleRef}

/-! ## What becomes of a reference -/

theorem isReference_iff_splitsAt :
    IsReference reference ↔ ∃ n, SplitsAt (stripChars reference.toList) n := by
  unfold IsReference
  rcases splitReference_cases (stripChars reference.toList) with ⟨n, hn, h⟩ | ⟨hnone, h⟩
  · rw [h]
    exact ⟨fun _ => ⟨n, hn⟩, fun _ => Option.some_ne_none _⟩
  · rw [h]
    exact ⟨fun hne => absurd rfl hne, fun ⟨n, hn⟩ => absurd hn (hnone n)⟩

theorem pairOf_of_splitsAt (h : SplitsAt (stripChars reference.toList) n) :
    pairOf reference = partsAt (stripChars reference.toList) n :=
  split_eq_some (splitsAt_iff.1 h)

theorem resolve_ok_iff_splitsAt : s.resolve reference = .ok x ↔
    ∃ n, SplitsAt (stripChars reference.toList) n ∧
      x = partsAt (stripChars reference.toList) n ∧ s.Declares x := by
  rw [resolve_ok_iff, isReference_iff_splitsAt]
  constructor
  · rintro ⟨⟨n, hn⟩, rfl, hx⟩
    exact ⟨n, hn, pairOf_of_splitsAt hn, hx⟩
  · rintro ⟨n, hn, rfl, hx⟩
    exact ⟨⟨n, hn⟩, (pairOf_of_splitsAt hn).symm, hx⟩

theorem resolve_of_not_splitsAt (h : ∀ n, ¬SplitsAt (stripChars reference.toList) n) :
    s.resolve reference = .error (.invalidReference reference) := by
  rcases splitReference_cases (stripChars reference.toList) with ⟨n, hn, -⟩ | ⟨-, hnone⟩
  · exact absurd hn (h n)
  · unfold resolve
    rw [hnone]

theorem resolve_of_unknown_alias (h : SplitsAt (stripChars reference.toList) n)
    (halias : (partsAt (stripChars reference.toList) n).block ∉ Entries.keys s.blocks) :
    s.resolve reference = .error (.unknownAlias reference) := by
  have hnone : Entries.get? s.blocks (String.ofList _) = none := Entries.get?_eq_none halias
  unfold resolve
  rw [splitsAt_iff.1 h]
  dsimp only
  rw [hnone]

theorem resolve_of_unknown_style (h : SplitsAt (stripChars reference.toList) n)
    (halias : (partsAt (stripChars reference.toList) n).block ∈ Entries.keys s.blocks)
    (hstyle : ¬s.Declares (partsAt (stripChars reference.toList) n)) :
    s.resolve reference = .error (.unknownStyle (partsAt (stripChars reference.toList) n).block
      (partsAt (stripChars reference.toList) n).fragment) := by
  obtain ⟨block, hblock⟩ := Entries.mem_keys_iff.1 halias
  have hmem : (partsAt (stripChars reference.toList) n).fragment ∉ block.styles :=
    fun hmem => hstyle ⟨block, hblock, hmem⟩
  change Entries.get? s.blocks (String.ofList _) = _ at hblock
  unfold resolve
  rw [splitsAt_iff.1 h]
  dsimp only
  rw [hblock]
  exact if_neg hmem

/-- Two references that are resolved are resolved to one style exactly if they are one text, blanks
aside. -/
theorem resolve_eq_iff {reference' : String} {x' : StyleRef} (h : s.resolve reference = .ok x)
    (h' : s.resolve reference' = .ok x') : x = x' ↔ strip reference = strip reference' := by
  obtain ⟨n, hn, rfl, -⟩ := resolve_ok_iff_splitsAt.1 h
  obtain ⟨n', hn', rfl, -⟩ := resolve_ok_iff_splitsAt.1 h'
  constructor
  · intro heq
    rw [← append_partsAt reference n, heq, append_partsAt]
  · intro heq
    have hchars : stripChars reference.toList = stripChars reference'.toList :=
      String.ofList_inj.1 heq
    rw [hchars] at hn ⊢
    rw [hn.unique hn']

/-- **References.** Take a script that was read, its blocks with their styles in a store, and any
text, without the blanks around it. The pattern of references cuts the text exactly if it is split
at some position, and there. The text is resolved exactly if it is split into the alias of a block
and a fragment that the block declares, and then to the single style of the block for the fragment;
otherwise it fails for the first of these reasons that applies. Two texts that are resolved stand
for one style exactly if they are one text, blanks aside. -/
theorem stored_resolve_exact {identifier : String} {d : Datum} {s : WalkScript}
    (h : read identifier d = .ok s) (reference : String) :
    let r := stripChars reference.toList
    (∀ name fragment, Pattern.cut? namePattern fragmentPattern r = some (name, fragment) ↔
      ∃ n, SplitsAt r n ∧ name = r.take n ∧ fragment = r.drop n) ∧
    ((∃ i, s.stored.resolve reference = .ok i) ↔
      ∃ n, SplitsAt r n ∧ s.Declares (partsAt r n)) ∧
    (∀ i, s.stored.resolve reference = .ok i → ∃ n, SplitsAt r n ∧
      s.stored.IsSingle (partsAt r n) i ∧
      (partsAt r n).block ++ (s.stored.store.style i).fragment = strip reference) ∧
    ((∀ n, ¬SplitsAt r n) → s.stored.resolve reference = .error (.invalidReference reference)) ∧
    (∀ n, SplitsAt r n → (partsAt r n).block ∉ Entries.keys s.blocks →
      s.stored.resolve reference = .error (.unknownAlias reference)) ∧
    (∀ n, SplitsAt r n → (partsAt r n).block ∈ Entries.keys s.blocks →
      ¬s.Declares (partsAt r n) → s.stored.resolve reference =
        .error (.unknownStyle (partsAt r n).block (partsAt r n).fragment)) ∧
    (∀ reference' i j, s.stored.resolve reference = .ok i → s.stored.resolve reference' = .ok j →
      (i = j ↔ strip reference = strip reference')) ∧
    SameOutcome id s.stored.IsStyle (s.resolve reference) (s.stored.resolve reference) := by
  intro r
  have hs : s.Accepted := accepted_of_read h
  have hsame := hs.sameOutcome_resolve reference
  have herror : ∀ {e}, s.resolve reference = .error e → s.stored.resolve reference = .error e :=
    fun he => hsame.error_iff.2 ⟨_, he, rfl⟩
  refine ⟨fun name fragment => ?_, ?_, fun i hi => ?_,
    fun hnot => herror (resolve_of_not_splitsAt hnot),
    fun n hn halias => herror (resolve_of_unknown_alias hn halias),
    fun n hn halias hstyle => herror (resolve_of_unknown_style hn halias hstyle),
    fun reference' i j hi hj => ?_, hsame⟩
  · rw [cut?_stripChars]
    exact splitReference_eq_some_iff_splitsAt
  · rw [hsame.exists_ok_iff]
    simp only [resolve_ok_iff_splitsAt]
    constructor
    · rintro ⟨_, n, hn, rfl, hx⟩
      exact ⟨n, hn, hx⟩
    · rintro ⟨n, hn, hx⟩
      exact ⟨_, n, hn, rfl, hx⟩
  · obtain ⟨x, hx, hstyle⟩ := hsame.exists_ok hi
    obtain ⟨n, hn, rfl, -⟩ := resolve_ok_iff_splitsAt.1 hx
    have hsingle := hs.holds_stored.isSingle (StoredBlocks.noTwins_ofDeclared s.blocks) hstyle
    obtain ⟨b, -, hknown⟩ := hstyle
    refine ⟨n, hn, hsingle, ?_⟩
    rw [(hs.holds_stored.wellFormed.style_eq hknown).2]
    exact append_partsAt reference n
  · obtain ⟨x, hx, hxi⟩ := hsame.exists_ok hi
    obtain ⟨x', hx', hxj⟩ := (hs.sameOutcome_resolve reference').exists_ok hj
    rw [← resolve_eq_iff hx hx']
    constructor
    · rintro rfl
      exact hs.holds_stored.isStyle_unique.1 hxi hxj
    · rintro rfl
      exact hs.holds_stored.isStyle_unique.2 hxi hxj

/-- One text with blanks around it, and another one for a style of the same fragment. -/
theorem stored_resolve_exact_threeBlocks :
    read "page" threeBlocksDatum = .ok threeBlocks ∧
      ∃ i j, threeBlocks.stored.resolve " a.x\n" = .ok i ∧
        threeBlocks.stored.IsSingle ⟨"a", ".x"⟩ i ∧
        threeBlocks.stored.resolve "b.x" = .ok j ∧ i ≠ j := by
  have hread : read "page" threeBlocksDatum = .ok threeBlocks := rfl
  have hi : threeBlocks.stored.resolve " a.x\n" = .ok ⟨0⟩ := rfl
  have hj : threeBlocks.stored.resolve "b.x" = .ok ⟨2⟩ := rfl
  obtain ⟨-, -, hsingle, -, -, -, hinjective, -⟩ := stored_resolve_exact hread " a.x\n"
  have hsplit : SplitsAt (stripChars " a.x\n".toList) 1 := ⟨by decide, by decide, by decide⟩
  obtain ⟨n, hn, hsingle, -⟩ := hsingle _ hi
  rw [hn.unique hsplit] at hsingle
  refine ⟨hread, _, _, hi, hsingle, hj, ?_⟩
  rw [Ne, hinjective _ _ _ hi hj]
  decide

end WalkScript

end StyleUsage
