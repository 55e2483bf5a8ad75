import StyleUsage.Proofs.Walk.Stored

/-!
# When a replay fails

A script that was read can be replayed unless the type of its template is not registered, or an
element marks a style that neither it nor an element before it has (`MarksEarly`). No name is bound
in vain, no reference is unknown and no element is left open (`replay_error_iff`). The walk is
followed element by element: what was found before an element are the styles of the elements before
it (`foldlM_walkPairs_cases`).
-/

namespace StyleUsage

namespace WalkScript

open Analysis

/-! ## Marks that come too early -/

/-- Some element marks a style that neither it nor an element before it has. -/
def MarksEarly {σ : Type} (resolve : String → Except WalkError σ) (elements : List WalkElement) :
    Prop :=
  ∃ before e after, elements = before ++ e :: after ∧ ∃ r ∈ e.dynamic, ∃ x, resolve r = .ok x ∧
    ∀ e' ∈ before ++ [e], ∀ r' ∈ e'.styles, resolve r' ≠ .ok x

/-- Some element marks a style that was not seen before the first element, and that neither it nor
an element before it has. -/
def MarksUnseen (seen : StyleRef → Prop) (elements : List WalkElement) : Prop :=
  ∃ before e after, elements = before ++ e :: after ∧ ∃ r ∈ e.dynamic, ¬ seen (pairOf r) ∧
    ∀ e' ∈ before ++ [e], pairOf r ∉ e'.styles.map pairOf

theorem marksUnseen_cons {seen : StyleRef → Prop} {e : WalkElement} {es : List WalkElement} :
    MarksUnseen seen (e :: es) ↔
      (∃ r ∈ e.dynamic, ¬ seen (pairOf r) ∧ pairOf r ∉ e.styles.map pairOf) ∨
      MarksUnseen (fun x => seen x ∨ x ∈ e.styles.map pairOf) es := by
  constructor
  · rintro ⟨before, e', after, heq, r, hr, hseen, hall⟩
    cases before with
    | nil =>
      cases heq
      exact .inl ⟨r, hr, hseen, hall e List.mem_cons_self⟩
    | cons first before =>
      cases heq
      have hfirst := hall e List.mem_cons_self
      refine .inr ⟨before, e', after, rfl, r, hr, not_or.2 ⟨hseen, hfirst⟩, fun e'' he'' => ?_⟩
      exact hall e'' (List.mem_cons_of_mem e he'')
  · rintro (⟨r, hr, hseen, hstyles⟩ | ⟨before, e', after, rfl, r, hr, hseen, hall⟩)
    · refine ⟨[], e, es, rfl, r, hr, hseen, fun e' he' => ?_⟩
      rw [List.mem_singleton.1 he']
      exact hstyles
    · obtain ⟨hseen, hfirst⟩ := not_or.1 hseen
      refine ⟨e :: before, e', after, rfl, r, hr, hseen, fun e'' he'' => ?_⟩
      rcases List.mem_cons.1 he'' with rfl | he''
      · exact hfirst
      · exact hall e'' he''

/-! ## The walk over one element -/

variable {a a' : Analysis String StyleRef}

/-- Adding the styles of references does not fail, and these are found then. -/
theorem foldlM_addPair (rs : List String) (a : Analysis String StyleRef) :
    ∃ a', rs.foldlM addPair a = .ok a' ∧
      ∀ x, x ∈ a'.found ↔ x ∈ a.found ∨ x ∈ rs.map pairOf := by
  induction rs generalizing a with
  | nil => exact ⟨a, rfl, by simp⟩
  | cons r rs ih =>
    obtain ⟨a', hrun, hfound⟩ := ih (a.addStyle (pairOf r))
    refine ⟨a', hrun, fun x => ?_⟩
    have hadd : x ∈ (a.addStyle (pairOf r)).found ↔ x ∈ a.found ∨ x = pairOf r :=
      OrderedSet.mem_insert
    rw [hfound, hadd, List.map_cons, List.mem_cons, or_assoc]

/-- Marking the styles of references fails exactly if one of them was not found. -/
theorem foldlM_markPair_cases (rs : List String) (a : Analysis String StyleRef) :
    (∃ a', rs.foldlM markPair a = .ok a' ∧ a'.found = a.found ∧
      ∀ r ∈ rs, pairOf r ∈ a.found) ∨
    (rs.foldlM markPair a = .error .notYetAdded ∧
      ∃ r ∈ rs, pairOf r ∉ a.found) := by
  induction rs generalizing a with
  | nil => exact .inl ⟨a, rfl, rfl, by simp⟩
  | cons r rs ih =>
    rw [List.foldlM_cons]
    unfold markPair markDynamic at *
    by_cases hr : pairOf r ∈ a.found
    · rw [if_pos hr]
      rcases ih { a with dynamic := a.dynamic.insert (pairOf r) } with
        ⟨a', hrun, hfound, hall⟩ | ⟨hrun, r', hr', hmissing⟩
      · exact .inl ⟨a', hrun, hfound, List.forall_mem_cons.2 ⟨hr, hall⟩⟩
      · exact .inr ⟨hrun, r', List.mem_cons_of_mem r hr', hmissing⟩
    · rw [if_neg hr]
      exact .inr ⟨rfl, r, List.mem_cons_self, hr⟩

/-- When no style is pending, the walk over an element finds its styles and leaves none pending,
unless it marks a style that was not found. -/
theorem walkPairs_cases (h : a.scope.holdsStyles = false) (e : WalkElement) :
    (∃ a', walkPairs a e = .ok a' ∧ a'.scope.holdsStyles = false ∧
      (∀ x, x ∈ a'.found ↔ x ∈ a.found ∨ x ∈ e.styles.map pairOf) ∧
      ∀ r ∈ e.dynamic, pairOf r ∈ a.found ∨ pairOf r ∈ e.styles.map pairOf) ∨
    (walkPairs a e = .error .notYetAdded ∧
      ∃ r ∈ e.dynamic, pairOf r ∉ a.found ∧ pairOf r ∉ e.styles.map pairOf) := by
  obtain ⟨a₁, hstyles, hfound⟩ := foldlM_addPair e.styles { a with scope := ⟨true, none⟩ }
  have hwalk : walkPairs a e = e.dynamic.foldlM markPair a₁ >>= fun a => .ok a.endElement := by
    unfold walkPairs
    rw [startElement_eq h]
    show (e.styles.foldlM addPair _ >>= _) = _
    rw [hstyles]
    rfl
  rw [hwalk]
  rcases foldlM_markPair_cases e.dynamic a₁ with ⟨a₂, hmarks, hsame, hall⟩ | ⟨hmarks, r, hr, hr'⟩
  · rw [hmarks]
    refine .inl ⟨a₂.endElement, rfl, rfl, fun x => ?_, fun r hr => (hfound _).1 (hall r hr)⟩
    show x ∈ a₂.found ↔ _
    rw [hsame]
    exact hfound x
  · rw [hmarks]
    exact .inr ⟨rfl, r, hr, not_or.1 fun h => hr' ((hfound _).2 h)⟩

/-- The walk over elements fails exactly if one of them marks a style that was found neither before
nor by then. -/
theorem foldlM_walkPairs_cases (h : a.scope.holdsStyles = false) (es : List WalkElement) :
    ((∃ a', es.foldlM walkPairs a = .ok a') ∧ ¬ MarksUnseen (· ∈ a.found) es) ∨
    (es.foldlM walkPairs a = .error .notYetAdded ∧ MarksUnseen (· ∈ a.found) es) := by
  -- What was found so far is what is seen: the styles of an element join it after its walk.
  induction es generalizing a with
  | nil =>
    refine .inl ⟨⟨a, rfl⟩, ?_⟩
    rintro ⟨before, e, after, heq, -⟩
    exact List.append_ne_nil_of_right_ne_nil _ (List.cons_ne_nil e after) heq.symm
  | cons e es ih =>
    rw [List.foldlM_cons, marksUnseen_cons]
    rcases walkPairs_cases h e with ⟨a', hrun, hscope, hfound, hmarks⟩ | ⟨hrun, hmarks⟩
    · have hseen : (fun x => x ∈ a.found ∨ x ∈ e.styles.map pairOf) = (· ∈ a'.found) :=
        funext fun x => propext (hfound x).symm
      have hfirst : ¬ ∃ r ∈ e.dynamic, pairOf r ∉ a.found ∧ pairOf r ∉ e.styles.map pairOf := by
        rintro ⟨r, hr, hnot⟩
        exact not_or.2 hnot (hmarks r hr)
      rw [hrun, hseen, or_iff_right hfirst]
      exact ih hscope
    · rw [hrun]
      exact .inr ⟨rfl, .inl hmarks⟩

/-! ## Replays -/

variable {s : WalkScript}

theorem foldlM_bindName (names : List String) (a : Analysis String StyleRef) :
    ∃ a', names.foldlM bindName a = .ok a' ∧ a'.found = a.found ∧ a'.scope = a.scope := by
  induction names generalizing a with
  | nil => exact ⟨a, rfl, rfl, rfl⟩
  | cons name names ih =>
    obtain ⟨a', hrun, hfound, hscope⟩ := ih (a.bind name name)
    exact ⟨a', hrun, hfound, hscope⟩

theorem rebuild_cases (registry : Registry) (d : Descriptor) :
    (d.type ∈ Entries.keys registry ∧ ∃ template, registry.rebuild d = .ok template) ∨
    (d.type ∉ Entries.keys registry ∧ registry.rebuild d = .error (.unknownType d.type)) := by
  unfold Registry.rebuild Registry.create
  cases htype : registry.get? d.type with
  | none =>
    refine .inr ⟨fun hmem => ?_, rfl⟩
    obtain ⟨c, hc⟩ := Entries.mem_keys_iff.1 hmem
    rw [htype] at hc
    cases hc
  | some c => exact .inl ⟨Entries.mem_keys_iff.2 ⟨c, htype⟩, _, rfl⟩

namespace Accepted

/-- The replay of an accepted script fails for one of two causes, or it does not fail. -/
theorem replay_cases (h : s.Accepted) (registry : Registry) :
    (s.template.type ∉ Entries.keys registry ∧
      s.replay registry = .error (.template (.unknownType s.template.type))) ∨
    (s.template.type ∈ Entries.keys registry ∧ MarksUnseen (fun _ => False) s.elements ∧
      s.replay registry = .error (.step .notYetAdded)) ∨
    (s.template.type ∈ Entries.keys registry ∧ ¬ MarksUnseen (fun _ => False) s.elements ∧
      ∃ a, s.replay registry = .ok a) := by
  rw [h.replay_eq]
  rcases rebuild_cases registry s.template with ⟨htype, template, hinfo⟩ | ⟨htype, hinfo⟩
  · obtain ⟨a, hbind, hfound, hscope⟩ := foldlM_bindName s.bound (begin template)
    have hseen : (fun x : StyleRef => x ∈ a.found) = fun _ => False := by
      rw [hfound]
      exact funext fun x => eq_false List.not_mem_nil
    have hidle : a.scope.holdsStyles = false := by
      rw [hscope]
      rfl
    rw [hinfo]
    show _ ∨ (_ ∧ _ ∧ Except.mapError _ (_ >>= _) = _) ∨
      (_ ∧ _ ∧ ∃ a, Except.mapError _ (_ >>= _) = _)
    rw [hbind, ← hseen]
    right
    rcases foldlM_walkPairs_cases hidle s.elements with ⟨⟨a', hrun⟩, hmarks⟩ | ⟨hrun, hmarks⟩
    · exact .inr ⟨htype, hmarks, a', congrArg (Except.mapError _) hrun⟩
    · exact .inl ⟨htype, hmarks, congrArg (Except.mapError _) hrun⟩
  · rw [hinfo]
    exact .inl ⟨htype, rfl⟩

end Accepted

/-- Marks that come too early do so whatever stands for the pairs of an alias and a fragment, as
long as it does so one to one. -/
theorem marksEarly_iff {σ : Type} {resolve : String → Except WalkError σ} {R : StyleRef → σ → Prop}
    {es : List WalkElement} (hR : Relator.BiUnique R)
    (hresolve : ∀ e ∈ es, ∀ r ∈ e.styles ++ e.dynamic, ∃ x, resolve r = .ok x ∧ R (pairOf r) x) :
    MarksEarly resolve es ↔ MarksUnseen (fun _ => False) es := by
  refine exists_congr fun before => exists_congr fun e => exists_congr fun after =>
    and_congr_right fun heq => exists_congr fun r => and_congr_right fun hr => ?_
  have hmem : ∀ e' ∈ before ++ [e], e' ∈ es := by
    rintro e' he'
    rw [heq, ← List.singleton_append, ← List.append_assoc]
    exact List.mem_append_left after he'
  obtain ⟨x, hx, hrel⟩ := hresolve e (hmem e (by simp)) r (List.mem_append_right _ hr)
  constructor
  · rintro ⟨y, hy, hall⟩
    rw [hx] at hy
    cases hy
    refine ⟨id, fun e' he' hpair => ?_⟩
    obtain ⟨r', hr', hpair⟩ := List.mem_map.1 hpair
    obtain ⟨x', hx', hrel'⟩ := hresolve e' (hmem e' he') r' (List.mem_append_left _ hr')
    rw [hpair] at hrel'
    exact hall e' he' r' hr' (hx'.trans (congrArg Except.ok (hR.2 hrel' hrel)))
  · rintro ⟨-, hall⟩
    refine ⟨x, hx, fun e' he' r' hr' hsame => hall e' he' (List.mem_map.2 ⟨r', hr', ?_⟩)⟩
    obtain ⟨x', hx', hrel'⟩ := hresolve e' (hmem e' he') r' (List.mem_append_left _ hr')
    rw [hx'] at hsame
    cases hsame
    exact hR.1 hrel' hrel

/-- A script that was read cannot be replayed if the type of its template is not registered; if it
is, then exactly if some element marks a style too early. Nothing else fails, be it in the store or
with names for handles. -/
theorem replay_error_iff {identifier : String} {d : Datum} (hread : read identifier d = .ok s)
    (registry : Registry) :
    let registered := s.template.type ∈ Entries.keys registry
    let early := MarksEarly s.stored.resolve s.elements
    (∀ cause, s.storedReplay registry = .error cause ↔
      (¬ registered ∧ cause = .replay (.template (.unknownType s.template.type))) ∨
      (registered ∧ early ∧ cause = .replay (.step .notYetAdded))) ∧
    ((∃ a, s.storedReplay registry = .ok a) ↔ registered ∧ ¬ early) ∧
    (early ↔ MarksEarly s.resolve s.elements) ∧
    (∀ cause, s.replay registry = .error cause ↔
      s.storedReplay registry = .error (.replay cause)) := by
  intro registered early
  have h := accepted_of_read hread
  have hearly : early ↔ MarksUnseen (fun _ => False) s.elements :=
    marksEarly_iff h.handles.style_unique fun e he r hr => h.resolve_stored (h.resolve_eq e he r hr)
  have hearly' : MarksEarly s.resolve s.elements ↔ MarksUnseen (fun _ => False) s.elements :=
    marksEarly_iff ⟨fun _ _ _ hx hy => hx.trans hy.symm, fun _ _ _ hx hy => hx.symm.trans hy⟩
      fun e he r hr => ⟨_, h.resolve_eq e he r hr, rfl⟩
  have hsame := h.sameOutcome_replay registry
  refine ⟨fun cause => ?_, ?_, hearly.trans hearly'.symm, fun cause => ?_⟩
  · rw [hsame.error_iff, hearly]
    rcases h.replay_cases registry with ⟨ht, hrun⟩ | ⟨ht, hm, hrun⟩ | ⟨ht, hm, a, hrun⟩ <;>
      simp [registered, *]
  · rw [hsame.exists_ok_iff, hearly]
    rcases h.replay_cases registry with ⟨ht, hrun⟩ | ⟨ht, hm, hrun⟩ | ⟨ht, hm, a, hrun⟩ <;>
      simp [registered, *]
  · rw [hsame.error_iff]
    simp

/-- A script whose first element marks a style that the second one has. -/
def earlyMark : WalkScript where
  template := ⟨TemplateKind.base.typeName, .str "page", none⟩
  blocks := [("a", ⟨"a.css", OrderedSet.ofList [".x"], []⟩)]
  bound := ["a"]
  elements := [⟨[], ["a.x"]⟩, ⟨["a.x"], []⟩]

/-- The value that the script is read from. -/
def earlyMarkDatum : Datum :=
  .ofFields [
    ("blocks", .ofFields [("a", .ofFields [("source", .str "a.css"),
      ("styles", .ofStrings [".x"])])]),
    ("elements", .list none [.ofFields [("dynamic", .ofStrings ["a.x"])], .ofStrings ["a.x"]])]

theorem replay_error_iff_earlyMark :
    read "page" earlyMarkDatum = .ok earlyMark ∧
      earlyMark.storedReplay .initial = .error (.replay (.step .notYetAdded)) ∧
      earlyMark.replay .initial = .error (.step .notYetAdded) := by
  have hread : read "page" earlyMarkDatum = .ok earlyMark := rfl
  obtain ⟨herror, -, -, hnames⟩ := replay_error_iff hread .initial
  have hearly : MarksEarly earlyMark.stored.resolve earlyMark.elements := by
    refine ⟨[], ⟨[], ["a.x"]⟩, [⟨["a.x"], []⟩], rfl, "a.x", List.mem_cons_self, ⟨0⟩, rfl, ?_⟩
    simp
  have hstored : earlyMark.storedReplay .initial = .error (.replay (.step .notYetAdded)) :=
    (herror _).2 (.inr ⟨List.mem_cons_self, hearly, rfl⟩)
  exact ⟨hread, hstored, (hnames _).2 hstored⟩

end WalkScript

end StyleUsage
