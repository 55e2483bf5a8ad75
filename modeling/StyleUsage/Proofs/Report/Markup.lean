import StyleUsage.Proofs.Collection.Traversal
import StyleUsage.Proofs.Report.Manner
import StyleUsage.Report.Markup
import Mathlib.Data.Bool.AllAny
import Mathlib.Data.List.TakeWhile

/-!
# Markup that shows its text as it is

A bracket opens a tag only if the tag is closed before the next bracket (`readTag?_eq_some_iff`). A
plain text has no tags and nothing else that is replaced, and is shown as it is, also between the
tags of a manner of writing (`plainText_styled`). A part of a name that has the form of a tag is not
shown (`plainText_hidden`), and if it closes what was not opened it is a fault
(`exists_plainText_unopened`).
-/

namespace StyleUsage

namespace Text

variable {separator : Char} {cs : List Char}

theorem parts_of_not_mem (h : separator ∉ cs) : parts separator cs = [cs] := by
  induction cs with
  | nil => rfl
  | cons c cs ih =>
    obtain ⟨hc, hcs⟩ := not_or.1 (List.mem_cons.not.1 h)
    rw [parts, if_neg (Ne.symm hc), ih hcs]

theorem parts_append_cons (h : separator ∉ cs) (rest : List Char) :
    parts separator (cs ++ separator :: rest) = cs :: parts separator rest := by
  induction cs with
  | nil => exact if_pos rfl
  | cons c cs ih =>
    obtain ⟨hc, hcs⟩ := not_or.1 (List.mem_cons.not.1 h)
    rw [List.cons_append, parts, if_neg (Ne.symm hc), ih hcs]

theorem not_mem_of_mem_parts {cs part : List Char} (h : part ∈ parts separator cs) :
    separator ∉ part := by
  by_cases hmem : separator ∈ cs
  · obtain ⟨front, rest, hcs, hfront⟩ := List.eq_append_cons_of_mem hmem
    have hlt : rest.length < cs.length := by
      rw [hcs, List.length_append, List.length_cons]
      omega
    rw [hcs, parts_append_cons hfront] at h
    rcases List.mem_cons.1 h with rfl | h
    · exact hfront
    · exact not_mem_of_mem_parts h
  · rw [parts_of_not_mem hmem] at h
    rwa [List.mem_singleton.1 h]
termination_by cs.length

theorem parts_ne_nil (separator : Char) (cs : List Char) : parts separator cs ≠ [] := by
  cases cs with
  | nil => exact List.cons_ne_nil _ _
  | cons c cs =>
    rw [parts]
    split
    · exact List.cons_ne_nil _ _
    · split <;> exact List.cons_ne_nil _ _

theorem intercalate_parts (separator : Char) (cs : List Char) :
    [separator].intercalate (parts separator cs) = cs := by
  induction cs with
  | nil => rfl
  | cons c cs ih =>
    obtain ⟨part, more, hparts⟩ := List.exists_cons_of_ne_nil (parts_ne_nil separator cs)
    rw [hparts] at ih
    rw [parts, hparts]
    split
    · next heq =>
      rw [List.intercalate_cons_cons, ih, heq]
      rfl
    · cases more with
      | nil => simpa using ih
      | cons next more =>
        rw [List.intercalate_cons_cons] at ih ⊢
        rw [← ih]
        simp

/-- Parts with colons between them are left as they are if none of them in the middle is the name of
an emoji. -/
theorem joinWithEmoji_of_noEmoji {names : List (List Char)}
    (h : ∀ name ∈ names, ':' :: name ++ [':'] <:+: [':'].intercalate names →
      emojiFor name = ':' :: name ++ [':']) :
    joinWithEmoji names = [':'].intercalate names := by
  induction names using joinWithEmoji.induct with
  | case1 => rfl
  | case2 text => simp [joinWithEmoji]
  | case3 text last => simp [joinWithEmoji, List.intercalate_cons_cons]
  | case4 text name next rest hblank ih =>
    rw [joinWithEmoji, if_pos hblank, List.intercalate_cons_cons, ih, List.append_assoc]
    · rfl
    · intro name' hname' hwithin
      have hsuffix : [':'].intercalate (name :: next :: rest) <:+
          [':'].intercalate (text :: name :: next :: rest) :=
        ⟨text ++ [':'], List.intercalate_cons_cons.symm⟩
      exact h name' (List.mem_cons_of_mem _ hname') (hwithin.trans hsuffix.isInfix)
  | case5 text name next rest hblank ih =>
    have hall : [':'].intercalate (text :: name :: next :: rest) =
        text ++ (':' :: name ++ [':']) ++ [':'].intercalate (next :: rest) := by
      rw [List.intercalate_cons_cons, List.intercalate_cons_cons]
      simp
    rw [joinWithEmoji, if_neg hblank, hall, ih, h name (by simp) (hall ▸ List.infix_append _ _ _)]
    intro name' hname' hwithin
    refine h name' (List.mem_cons_of_mem _ (List.mem_cons_of_mem _ hname')) (hwithin.trans ?_)
    rw [hall]
    exact (List.suffix_append _ _).isInfix

theorem replaceEmojiNames_of_noEmoji (h : ∀ name, ':' ∉ name → ':' :: name ++ [':'] <:+: cs →
    emojiFor name = ':' :: name ++ [':']) : replaceEmojiNames cs = cs := by
  unfold replaceEmojiNames
  rw [joinWithEmoji_of_noEmoji fun name hname hwithin => ?_, intercalate_parts]
  rw [intercalate_parts] at hwithin
  exact h name (not_mem_of_mem_parts hname) hwithin

end Text

namespace Report

/-! ## Pieces -/

/-- A character that may stand in the body of a tag. -/
abbrev IsInside (c : Char) : Prop := c ≠ ']' ∧ c ≠ '['

/-- A tag is read up to its closing bracket. -/
theorem readTag?_eq_some_iff {cs body rest : List Char} :
    readTag? cs = some (body, rest) ↔
      cs = body ++ ']' :: rest ∧ (∀ c ∈ body, IsInside c) ∧ body.head?.any startsTag = true := by
  have hinside (c : Char) : (c != ']' && c != '[') = true ↔ IsInside c := by simp
  constructor
  · intro h
    unfold readTag? at h
    dsimp only at h
    split at h
    · next rest' hdrop =>
      split at h
      · next hstart =>
        cases h
        refine ⟨?_, fun c hc => ?_, hstart⟩
        · rw [← hdrop]
          exact (List.prefix_iff_eq_append.1 (List.takeWhile_prefix _)).symm
        · have hc := List.mem_takeWhile_imp hc
          exact (hinside c).1 hc
      · cases h
    · cases h
  · rintro ⟨rfl, hbody, hstart⟩
    have htake : (body ++ ']' :: rest).takeWhile (fun c => c != ']' && c != '[') = body := by
      rw [List.takeWhile_append_of_pos fun c hc => (hinside c).2 (hbody c hc),
        List.takeWhile_cons_of_neg (by decide), List.append_nil]
    unfold readTag?
    dsimp only
    rw [htake, List.drop_left]
    exact if_pos hstart

theorem readTag?_append {cs : List Char} (h : readTag? cs = none) (rest : List Char) :
    readTag? (cs ++ '[' :: rest) = none := by
  refine Option.eq_none_iff_forall_ne_some.2 fun ⟨body, after⟩ hsome => ?_
  obtain ⟨heq, hbody, hstart⟩ := readTag?_eq_some_iff.1 hsome
  rcases List.append_eq_append_iff.1 heq with ⟨part, rfl, hpart⟩ | ⟨part, rfl, hpart⟩
  · -- The body would go on beyond the other bracket.
    cases part with
    | nil => cases hpart
    | cons c part =>
      cases hpart
      exact (hbody '[' (List.mem_append_right _ List.mem_cons_self)).2 rfl
  · cases part with
    | nil => cases hpart
    | cons c part =>
      cases hpart
      cases h.symm.trans (readTag?_eq_some_iff.2 ⟨rfl, hbody, hstart⟩)

/-- No bracket of a text opens a tag. -/
def HasNoTag (cs : List Char) : Prop := ∀ rest, '[' :: rest <:+ cs → readTag? rest = none

theorem hasNoTag_of_not_mem {cs : List Char} (h : '[' ∉ cs) : HasNoTag cs :=
  fun _ hrest => absurd (hrest.mem List.mem_cons_self) h

theorem HasNoTag.of_cons {c : Char} {cs : List Char} (h : HasNoTag (c :: cs)) : HasNoTag cs :=
  fun _ hrest => h _ (hrest.trans (List.suffix_cons c cs))

theorem drop_takeWhile (p : Char → Bool) (cs : List Char) :
    cs.drop (cs.takeWhile p).length = cs.dropWhile p :=
  calc cs.drop (cs.takeWhile p).length
      = (cs.takeWhile p ++ cs.dropWhile p).drop (cs.takeWhile p).length := by
        rw [List.takeWhile_append_dropWhile]
    _ = cs.dropWhile p := List.drop_left

/-- A character is text unless it is the bracket of a tag or one of the backslashes in front. -/
theorem pieces_cons {held rest : List Char} {c : Char} {fuel : Nat}
    (h : ∀ after, (c :: rest).dropWhile (· == '\\') = '[' :: after → readTag? after = none) :
    pieces held (fuel + 1) (c :: rest) = pieces (c :: held) fuel rest := by
  rw [pieces, drop_takeWhile]
  split
  · next body rest' htag =>
    split at htag
    · next after hdrop => cases (h after hdrop).symm.trans htag
    · cases htag
  · rfl

theorem pieces_of_hasNoTag {text : List Char} (h : HasNoTag text) (held : List Char) (fuel : Nat) :
    pieces held fuel text = [.text (held.reverse ++ text)] := by
  induction text generalizing held fuel with
  | nil => cases fuel <;> simp [pieces]
  | cons c text ih =>
    cases fuel with
    | zero => rfl
    | succ fuel =>
      have hnone : ∀ after, (c :: text).dropWhile (· == '\\') = '[' :: after →
          readTag? after = none :=
        fun after hdrop => h after (hdrop ▸ List.dropWhile_suffix _)
      rw [pieces_cons hnone, ih h.of_cons]
      simp

/-- A text in front of a bracket is held, unless a backslash at its end belongs to the bracket. -/
theorem pieces_append {text : List Char} (h : HasNoTag text) (hend : text.getLast? ≠ some '\\')
    (held rest : List Char) (fuel : Nat) :
    pieces held (text.length + fuel) (text ++ '[' :: rest) =
      pieces (text.reverse ++ held) fuel ('[' :: rest) := by
  induction text generalizing held with
  | nil => rw [List.length_nil, Nat.zero_add]; rfl
  | cons c text ih =>
    have hdrop : (c :: text).dropWhile (· == '\\') ≠ [] := by
      intro hnil
      rw [List.dropWhile_eq_nil_iff] at hnil
      have hlast := hnil _ (List.getLast_mem (List.cons_ne_nil c text))
      rw [List.getLast?_eq_some_getLast (List.cons_ne_nil c text), beq_iff_eq.1 hlast] at hend
      exact hend rfl
    have hnone : ∀ after, (c :: (text ++ '[' :: rest)).dropWhile (· == '\\') = '[' :: after →
        readTag? after = none := by
      intro after hafter
      rw [← List.cons_append, List.dropWhile_append, if_neg (by simpa using hdrop)] at hafter
      have hsuffix : (c :: text).dropWhile (· == '\\') <:+ c :: text := List.dropWhile_suffix _
      generalize (c :: text).dropWhile (· == '\\') = left at hdrop hafter hsuffix
      cases left with
      | nil => exact absurd rfl hdrop
      | cons d left =>
        cases hafter
        exact readTag?_append (h left hsuffix) rest
    have hlen : (c :: text).length + fuel = (text.length + fuel) + 1 := by
      rw [List.length_cons]
      omega
    have hend' : text.getLast? ≠ some '\\' := by
      cases text with
      | nil => exact nofun
      | cons d text => rwa [List.getLast?_cons_cons] at hend
    rw [hlen, List.cons_append, pieces_cons hnone, ih h.of_cons hend']
    simp

/-- A text without tags in front of a tag is a piece, and nothing is held behind the tag. -/
theorem pieces_tag {text body : List Char} (htext : HasNoTag text)
    (hend : text.getLast? ≠ some '\\') (hbody : ∀ c ∈ body, IsInside c)
    (hstart : body.head?.any startsTag = true) (rest : List Char) (fuel : Nat) :
    pieces [] (text.length + (fuel + 1)) (text ++ '[' :: (body ++ ']' :: rest)) =
      .text text :: .text [] :: .tag (.ofBody body) :: pieces [] fuel rest := by
  have htag : readTag? (body ++ ']' :: rest) = some (body, rest) :=
    readTag?_eq_some_iff.2 ⟨rfl, hbody, hstart⟩
  have hslashes : ('[' :: (body ++ ']' :: rest)).takeWhile (· == '\\') = [] := rfl
  rw [pieces_append htext hend, pieces, hslashes, List.append_nil, List.reverse_reverse]
  split
  · next body' rest' h =>
    cases htag.symm.trans h
    rfl
  · next h => cases htag.symm.trans h

/-! ## Plain texts -/

section Plain

variable {isEmoji : List Char → Bool} {cs : List Char}

/-- A text that is shown as it is: it has no tags, no backslashes in front of brackets, no names of
emoji between colons, no characters that are hidden, and no tabs, which are shown as spaces. -/
structure IsPlain (isEmoji : List Char → Bool) (cs : List Char) : Prop where
  noTag : HasNoTag cs
  noEscape : ¬['\\', '['] <:+: cs
  noEmoji : ∀ name, ':' ∉ name → ':' :: name ++ [':'] <:+: cs → isEmoji name = false
  noHidden : ∀ c ∈ cs, isHidden c = false
  noTab : '\t' ∉ cs

/-- A character that stands for itself wherever it is; a colon may still be one of two around a
name. -/
abbrev IsOrdinary (c : Char) : Prop := c ≠ '[' ∧ isHidden c = false ∧ c ≠ '\t'

theorem isPlain_of_isOrdinary (h : ∀ c ∈ cs, IsOrdinary c) (hcolons : cs.count ':' ≤ 1) :
    IsPlain isEmoji cs where
  noTag := hasNoTag_of_not_mem fun hc => (h _ hc).1 rfl
  noEscape := fun hcs => (h '[' (hcs.mem (by decide))).1 rfl
  noEmoji := by
    intro name _ hname
    have hcount := hname.sublist.count_le ':'
    rw [List.count_append, List.count_cons_self, List.count_singleton_self] at hcount
    omega
  noHidden := fun c hc => (h c hc).2.1
  noTab := fun hc => (h _ hc).2.2 rfl

theorem IsPlain.nil : IsPlain isEmoji [] := isPlain_of_isOrdinary nofun (Nat.zero_le 1)

theorem unescape_of_noEscape (h : ¬['\\', '['] <:+: cs) : unescape cs = cs := by
  induction cs with
  | nil => rfl
  | cons c cs ih =>
    rw [unescape, ih fun hcs => h (hcs.trans (List.suffix_cons c cs).isInfix)]
    rintro rest rfl rfl
    exact h ⟨[], rest, rfl⟩

end Plain

/-! ## Tags -/

section Tags

variable {cs : List Char}

theorem shown_text (h : IsPlain Text.isEmoji cs) (opened : List (String × Tag))
    (rest : List Piece) : shown opened (.text cs :: rest) = (shown opened rest).map (cs ++ ·) := by
  rw [shown, unescape_of_noEscape h.noEscape, Text.replaceEmojiNames_of_noEmoji]
  exact fun name hname hwithin => by simpa [Text.isEmoji] using h.noEmoji name hname hwithin

theorem shown_nil (opened : List (String × Tag)) (rest : List Piece) :
    shown opened (.text [] :: rest) = shown opened rest := by
  rw [shown_text .nil]
  cases shown opened rest <;> rfl

theorem shown_opening {name : List Char} (h : name.head? ≠ some '/') (opened : List (String × Tag))
    (rest : List Piece) : shown opened (.tag ⟨name, none⟩ :: rest) = (do
      let form ← plainForm name
      shown ((form, ⟨name, none⟩) :: opened) rest) := by
  rw [shown.eq_def]
  dsimp only
  split
  · exact absurd rfl h
  · rfl

/-- A tag ends what was started last in a manner of the same form. -/
theorem shown_closing {name started : List Char} {form : String}
    (hname : name ≠ []) (hstrip : Text.stripChars name = name)
    (hform : plainForm name = .ok form) (opened : List (String × Tag))
    (rest : List Piece) :
    shown ((form, ⟨started, none⟩) :: opened) (.tag ⟨'/' :: name, none⟩ :: rest) =
      shown opened rest := by
  have hcheck : checkArgument ⟨started, none⟩ = .ok () := by
    unfold checkArgument
    split
    · next heq => cases heq
    · rfl
  rw [shown.eq_def]
  refine (if_neg (by rw [hstrip, List.isEmpty_iff]; exact hname)).trans ?_
  have hfind : ((form, (⟨started, none⟩ : Tag)) :: opened).find? (·.1 == form) =
      some (form, ⟨started, none⟩) := List.find?_cons_of_pos (beq_iff_eq.2 rfl)
  have herase : ((form, (⟨started, none⟩ : Tag)) :: opened).eraseP (·.1 == form) = opened :=
    List.eraseP_cons_of_pos (beq_iff_eq.2 rfl)
  rw [hstrip, hform]
  simp only [bind, Except.bind, hfind, herase, hcheck]

theorem exists_shown_unopened (name : List Char) (parameters : Option (List Char))
    (rest : List Piece) : ∃ e, shown [] (.tag ⟨'/' :: name, parameters⟩ :: rest) = .error e := by
  rw [shown.eq_def]
  show ∃ e, (if (Text.stripChars name).isEmpty then .error (.unmatched ⟨'/' :: name, parameters⟩)
    else plainForm (Text.stripChars name) >>= fun _ =>
      .error (.unmatched ⟨'/' :: name, parameters⟩) : Except MarkupError (List Char)) = .error e
  split
  · exact ⟨_, rfl⟩
  · cases plainForm (Text.stripChars name) <;> exact ⟨_, rfl⟩

theorem ofBody_of_noParameters {body : List Char} (h : '=' ∉ body) :
    Tag.ofBody body = ⟨body, none⟩ := by
  have htake : body.takeWhile (· != '=') = body := by
    rw [List.takeWhile_eq_self_iff]
    rintro c hc
    exact bne_iff_ne.2 fun heq => h (heq ▸ hc)
  have hcontains : ¬body.contains '=' = true := fun hc => h (List.contains_iff_mem.1 hc)
  unfold Tag.ofBody
  rw [htake, if_neg hcontains]

theorem checkManner_of_noParameters (name : List Char) :
    checkManner (.tag ⟨name, none⟩) = .ok () := by
  cases name with
  | nil => rfl
  | cons c name =>
    by_cases hc : c = '/'
    · subst hc
      rfl
    · simp [checkManner, hc]

theorem filter_isHidden (h : ∀ c ∈ cs, isHidden c = false) :
    (cs.filter fun c => !isHidden c) = cs :=
  List.filter_eq_self.2 fun c hc => by rw [h c hc]; rfl

/-- What markup shows is known from its pieces. -/
theorem plainText_eq_ok {markup shownText : List Char} {parts : List Piece}
    (hparts : pieces [] markup.length markup = parts) (hshown : shown [] parts = .ok shownText)
    (hcheck : ∀ part ∈ parts, checkManner part = .ok ())
    (hhidden : ∀ c ∈ shownText, isHidden c = false) :
    plainText (String.ofList markup) = .ok shownText := by
  unfold plainText
  dsimp only
  rw [String.toList_ofList, hparts, hshown, forM_eq_ok_iff.2 hcheck]
  exact congrArg Except.ok (filter_isHidden hhidden)

end Tags

/-! ## Texts with tags -/

/-- A text whose end does not touch a tag behind it. -/
structure IsFront (isEmoji : List Char → Bool) (cs : List Char) : Prop extends
    IsPlain isEmoji cs where
  noBackslash : cs.getLast? ≠ some '\\'

/-- The body of a tag that asks for no more than a manner of writing. -/
structure IsBody (body : List Char) : Prop where
  start : body.head?.any startsTag = true
  inside : ∀ c ∈ body, IsInside c ∧ c ≠ '=' ∧ c ≠ ')'

/-- A tag of small letters. -/
structure IsTagName (name : List Char) : Prop where
  ne_nil : name ≠ []
  small : ∀ c ∈ name, 'a' ≤ c ∧ c ≤ 'z'

/-- A text in a manner of writing, behind another text. -/
structure Styled where
  front : List Char
  tag : List Char
  inner : List Char

namespace Styled

/-- The text with its tags. -/
def markup (p : Styled) : List Char :=
  p.front ++ '[' :: (p.tag ++ ']' :: (p.inner ++ '[' :: ('/' :: p.tag ++ [']'])))

/-- The text without its tags. -/
def shown (p : Styled) : List Char := p.front ++ p.inner

/-- Tags are all that is not shown. -/
structure IsSound (isEmoji : List Char → Bool) (p : Styled) : Prop where
  front : IsFront isEmoji p.front
  tag : IsTagName p.tag
  inner : IsFront isEmoji p.inner

/-- The pieces that the text is read as. -/
def pieces (p : Styled) : List Piece :=
  [.text p.front, .text [], .tag ⟨p.tag, none⟩, .text p.inner, .text [], .tag ⟨'/' :: p.tag, none⟩]

end Styled

theorem IsTagName.isBody {name : List Char} (h : IsTagName name) : IsBody name where
  start := by
    obtain ⟨c, cs, rfl⟩ := List.exists_cons_of_ne_nil h.ne_nil
    have hc := h.small c List.mem_cons_self
    simp [startsTag, hc]
  inside := by
    intro c hc
    refine ⟨⟨?_, ?_⟩, ?_, ?_⟩ <;>
    · rintro rfl
      exact absurd (h.small _ hc) (by decide)

theorem IsTagName.stripChars {name : List Char} (h : IsTagName name) :
    Text.stripChars name = name := by
  have hsolid : ∀ c ∈ name, Text.isBlank c = false := by
    intro c hc
    have hsmall := h.small c hc
    have hlt : c.toNat < 0x7B := Nat.lt_succ_of_le hsmall.2
    exact Text.forall_char_lt
      (P := fun c => 'a' ≤ c ∧ c ≤ 'z' → Text.isBlank c = false) (by decide +kernel) hlt hsmall
  have hdrop : ∀ cs : List Char, (∀ c ∈ cs, Text.isBlank c = false) →
      cs.dropWhile Text.isBlank = cs := by
    intro cs hcs
    cases cs with
    | nil => rfl
    | cons c cs => exact List.dropWhile_cons_of_neg (by simp [hcs c List.mem_cons_self])
  unfold Text.stripChars Text.stripEnd
  rw [hdrop name hsolid, hdrop name.reverse fun c hc => hsolid c (List.mem_reverse.1 hc),
    List.reverse_reverse]

section Texts

variable {front back body : List Char}

/-- The pieces of a text in a manner of writing come before those of the text behind it. -/
theorem pieces_styled {p : Styled} {isEmoji : List Char → Bool} (h : p.IsSound isEmoji)
    (rest : List Char) (fuel : Nat) :
    pieces [] (p.front.length + (p.inner.length + (fuel + 1) + 1)) (p.markup ++ rest) =
      p.pieces ++ pieces [] fuel rest := by
  have hbody := h.tag.isBody
  have hclosing : ∀ c ∈ '/' :: p.tag, IsInside c :=
    List.forall_mem_cons.2 ⟨by decide, fun c hc => (hbody.inside c hc).1⟩
  have hmarkup : p.markup ++ rest = p.front ++ '[' :: (p.tag ++ ']' :: (p.inner ++ '[' ::
      ('/' :: p.tag ++ ']' :: rest))) := by
    simp [Styled.markup]
  have hopened : Tag.ofBody p.tag = ⟨p.tag, none⟩ :=
    ofBody_of_noParameters fun hc => (hbody.inside _ hc).2.1 rfl
  have hclosed : Tag.ofBody ('/' :: p.tag) = ⟨'/' :: p.tag, none⟩ := by
    refine ofBody_of_noParameters fun hc => ?_
    rcases List.mem_cons.1 hc with hc | hc
    · exact absurd hc (by decide)
    · exact (hbody.inside _ hc).2.1 rfl
  rw [hmarkup, pieces_tag h.front.noTag h.front.noBackslash (fun c hc => (hbody.inside c hc).1)
    hbody.start, pieces_tag h.inner.noTag h.inner.noBackslash hclosing rfl, hopened, hclosed]
  rfl

theorem shown_styled {p : Styled} (h : p.IsSound Text.isEmoji) (rest : List Piece) :
    shown [] (p.pieces ++ rest) = (shown [] rest).map (p.shown ++ ·) := by
  have hbody := h.tag.isBody
  obtain ⟨form, hform⟩ := Manner.exists_plainForm fun hc => (hbody.inside _ hc).2.2 rfl
  have hform : plainForm p.tag = .ok form := by rw [plainForm, hform]; rfl
  have hslash : p.tag.head? ≠ some '/' := by
    intro hhead
    exact absurd (h.tag.small _ (List.mem_of_mem_head? hhead)) (by decide)
  unfold Styled.pieces
  simp only [List.cons_append, List.nil_append]
  rw [shown_text h.front.toIsPlain, shown_nil, shown_opening hslash, hform]
  show Except.map _ (shown [(form, _)] _) = _
  rw [shown_text h.inner.toIsPlain, shown_nil,
    shown_closing h.tag.ne_nil h.tag.stripChars hform]
  cases shown [] rest with
  | error e => rfl
  | ok cs => exact congrArg Except.ok (List.append_assoc ..).symm

/-- Texts in manners of writing are shown without their tags. -/
theorem plainText_styled {parts : List Styled} {tail : List Char}
    (hparts : ∀ p ∈ parts, p.IsSound Text.isEmoji) (htail : IsPlain Text.isEmoji tail) :
    plainText (String.ofList (parts.flatMap Styled.markup ++ tail)) =
      .ok (parts.flatMap Styled.shown ++ tail) := by
  have hpieces : ∀ fuel, (parts.flatMap Styled.markup ++ tail).length ≤ fuel →
      pieces [] fuel (parts.flatMap Styled.markup ++ tail) =
        parts.flatMap Styled.pieces ++ [.text tail] := by
    induction parts with
    | nil => exact fun fuel _ => pieces_of_hasNoTag htail.noTag [] fuel
    | cons p parts ih =>
      intro fuel hfuel
      obtain ⟨hp, hrest⟩ := List.forall_mem_cons.1 hparts
      have hlen : p.markup.length = p.front.length + p.inner.length + 2 * p.tag.length + 5 := by
        simp [Styled.markup]
        omega
      simp only [List.flatMap_cons, List.append_assoc, List.length_append] at hfuel ih ⊢
      obtain ⟨left, rfl⟩ := Nat.exists_eq_add_of_le
        (show p.front.length + (p.inner.length + (0 + 1) + 1) ≤ fuel by omega)
      have hsplit : p.front.length + (p.inner.length + (0 + 1) + 1) + left =
          p.front.length + (p.inner.length + (left + 1) + 1) := by omega
      rw [hsplit, pieces_styled hp, ih hrest left (by omega)]
  have hshown : shown [] (parts.flatMap Styled.pieces ++ [.text tail]) =
      .ok (parts.flatMap Styled.shown ++ tail) := by
    clear hpieces
    induction parts with
    | nil =>
      rw [List.flatMap_nil, List.nil_append, shown_text htail]
      exact congrArg Except.ok (List.append_nil tail)
    | cons p parts ih =>
      obtain ⟨hp, hrest⟩ := List.forall_mem_cons.1 hparts
      rw [List.flatMap_cons, List.append_assoc, shown_styled hp, ih hrest, List.flatMap_cons,
        List.append_assoc]
      rfl
  refine plainText_eq_ok (hpieces _ (Nat.le_refl _)) hshown (fun part hpart => ?_) fun c hc => ?_
  · rcases List.mem_append.1 hpart with hpart | hpart
    · obtain ⟨p, -, hpart⟩ := List.mem_flatMap.1 hpart
      simp only [Styled.pieces, List.mem_cons, List.not_mem_nil, or_false] at hpart
      rcases hpart with rfl | rfl | rfl | rfl | rfl | rfl
      all_goals first | rfl | exact checkManner_of_noParameters _
    · rw [List.mem_singleton.1 hpart]
      rfl
  · rcases List.mem_append.1 hc with hc | hc
    · obtain ⟨p, hp, hc⟩ := List.mem_flatMap.1 hc
      rcases List.mem_append.1 hc with hc | hc
      · exact (hparts p hp).front.noHidden c hc
      · exact (hparts p hp).inner.noHidden c hc
    · exact htail.noHidden c hc

theorem pieces_tagged {isEmoji : List Char → Bool} (hfront : IsFront isEmoji front)
    (hstart : body.head?.any startsTag = true) (hbody : ∀ c ∈ body, IsInside c)
    (hback : HasNoTag back) :
    pieces [] (front ++ '[' :: (body ++ ']' :: back)).length
        (front ++ '[' :: (body ++ ']' :: back)) =
      [.text front, .text [], .tag (.ofBody body), .text back] := by
  have hlen : (front ++ '[' :: (body ++ ']' :: back)).length =
      front.length + (body.length + back.length + 1 + 1) := by
    simp
    omega
  rw [hlen, pieces_tag hfront.noTag hfront.noBackslash hbody hstart, pieces_of_hasNoTag hback]
  rfl

theorem plainText_hidden (hfront : IsFront Text.isEmoji front) (hbody : IsBody body)
    (hslash : body.head? ≠ some '/') (hback : IsPlain Text.isEmoji back) :
    plainText (String.ofList (front ++ '[' :: (body ++ ']' :: back))) = .ok (front ++ back) := by
  obtain ⟨form, hform⟩ := Manner.exists_plainForm fun hc => (hbody.inside _ hc).2.2 rfl
  have htag : Tag.ofBody body = ⟨body, none⟩ :=
    ofBody_of_noParameters fun hc => (hbody.inside _ hc).2.1 rfl
  refine plainText_eq_ok (pieces_tagged hfront hbody.start (fun c hc => (hbody.inside c hc).1)
    hback.noTag) ?_ (fun part hpart => ?_) fun c hc => ?_
  · rw [shown_text hfront.toIsPlain, shown_nil, htag, shown_opening hslash, plainForm, hform]
    show Except.map _ (shown [(form, _)] _) = _
    rw [shown_text hback]
    exact congrArg (fun cs => Except.ok (front ++ cs)) (List.append_nil back)
  · simp only [List.mem_cons, List.not_mem_nil, or_false] at hpart
    rcases hpart with rfl | rfl | rfl | rfl
    all_goals first | rfl | exact htag ▸ checkManner_of_noParameters _
  · rcases List.mem_append.1 hc with hc | hc
    · exact hfront.noHidden c hc
    · exact hback.noHidden c hc

theorem exists_plainText_unopened (hfront : IsFront Text.isEmoji front)
    (hbody : ∀ c ∈ body, IsInside c) (hback : HasNoTag back) :
    ∃ e, plainText (String.ofList (front ++ '[' :: ('/' :: body ++ ']' :: back))) = .error e := by
  have hclosing : ∀ c ∈ '/' :: body, IsInside c := List.forall_mem_cons.2 ⟨by decide, hbody⟩
  have htag : (Tag.ofBody ('/' :: body)).name = '/' :: body.takeWhile (· != '=') := by
    show ('/' :: body).takeWhile (· != '=') = _
    exact List.takeWhile_cons_of_pos rfl
  have hpieces := pieces_tagged hfront rfl hclosing hback
  unfold plainText
  dsimp only
  rw [String.toList_ofList, hpieces, shown_text hfront.toIsPlain, shown_nil]
  generalize Tag.ofBody ('/' :: body) = tag at htag
  obtain ⟨name, parameters⟩ := tag
  dsimp only at htag
  subst htag
  obtain ⟨e, he⟩ := exists_shown_unopened (body.takeWhile (· != '=')) parameters [.text back]
  rw [he]
  exact ⟨e, rfl⟩

end Texts

end Report

end StyleUsage
