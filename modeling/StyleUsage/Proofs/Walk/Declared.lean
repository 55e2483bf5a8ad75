import StyleUsage.Proofs.Walk.Grammar

/-!
# What decides about an alias

Keys of the blocks that differ may be one alias, as only their texts count. The block of an alias,
with its source, its styles and its dependencies, is that of the last entry for it
(`rel_lastFor?`), but every entry that does not say otherwise leaves the alias among the bound ones
(`bound_ofEntries`). So the last entry for an alias decides whether it is bound, and it is bound
once, exactly if no entry that binds an alias has another one for this alias behind it
(`decidedByLast_iff`).
-/

namespace StyleUsage

namespace WalkScript

open Datum

/-! ## What an entry says -/

/-- The block is the one that the value declares. -/
inductive DeclaredAs : Datum → BlockDeclaration → Prop where
  /-- The source alone. -/
  | source (s : String) : DeclaredAs (.str s) ⟨s, ∅, []⟩
  /-- A mapping with the source, the styles and the dependencies. -/
  | mapping {d : Datum} {entries : List (Datum × Datum)} {s : String}
      {styles dependsOn : List String} (hd : d.entries? = some entries)
      (hsource : lookup? entries "source" = some (.str s))
      (hstyles : (lookup entries "styles").listed? = some (styles.map .str))
      (hdependsOn : (lookup entries "depends_on").listed? = some (dependsOn.map .str)) :
      DeclaredAs d ⟨s, OrderedSet.ofList styles, dependsOn⟩

/-- Whether the value of an entry lets its alias be bound. -/
def binds (d : Datum) : Bool :=
  match d.field "bind" with
  | .bool b => b
  | _ => true

/-- The aliases of the entries that bind them, in order and with repetition. -/
def boundNames (entries : List (Datum × Datum)) : List String :=
  (entries.filter fun p => binds p.2).map fun p => p.1.display

theorem mem_boundNames {entries : List (Datum × Datum)} {name : String} :
    name ∈ boundNames entries ↔ ∃ p ∈ entries, binds p.2 = true ∧ p.1.display = name := by
  unfold boundNames
  simp only [List.mem_map, List.mem_filter, and_assoc]

section ReadBlock

variable {name : String} {d : Datum} {block : BlockDeclaration} {bind : Bool}

theorem declaredAs_of_readBlock (h : readBlock name d = .ok (block, bind)) :
    DeclaredAs d block := by
  rcases readBlock_cases h with ⟨source, hd, rfl, -⟩ |
    ⟨label, entries, source, styles, dependsOn, hd, hsource, hstyles, hdeps, -, rfl⟩
  · rw [opened_eq_str_iff.1 hd]
    exact .source source
  · exact .mapping (entries?_eq_some_iff.2 ⟨label, hd⟩) (lookup_eq_str_iff.1 hsource) hstyles hdeps

theorem binds_of_readBlock (h : readBlock name d = .ok (block, bind)) : binds d = bind := by
  rcases readBlock_cases h with ⟨source, hd, -, rfl⟩ |
    ⟨label, entries, source, styles, dependsOn, hd, -, -, -, hbind, -⟩
  · rw [opened_eq_str_iff.1 hd]
    rfl
  · unfold binds
    rw [field_of_entries? (entries?_eq_some_iff.2 ⟨label, hd⟩), lookup]
    unfold readBind at hbind
    split at hbind
    · next hnone =>
      cases hbind
      rw [hnone]
      rfl
    · next hsome =>
      cases hbind
      rw [hsome]
      rfl
    · cases hbind

end ReadBlock

section Entries

variable {entries : List (Datum × Datum)} {rs : List ReadEntry}

theorem bound_ofEntries (h : List.Forall₂ ReadsAs entries rs) :
    (Blocks.ofEntries rs).bound = boundNames entries := by
  show (rs.filter ReadEntry.bind).map ReadEntry.name = boundNames entries
  induction h with
  | nil => rfl
  | @cons p r entries rs hr _ ih =>
    unfold boundNames at ih ⊢
    rw [List.filter_cons, List.filter_cons, binds_of_readBlock hr.2]
    cases r.bind with
    | false => exact ih
    | true =>
      rw [if_pos rfl, if_pos rfl, List.map_cons, List.map_cons, ih, hr.1]

/-! ## The last entry -/

theorem lastFor?_concat (entries : List (Datum × Datum)) (p : Datum × Datum) (name : String) :
    lastFor? (entries ++ [p]) name =
      if p.1.display = name then some p.2 else lastFor? entries name := by
  unfold lastFor?
  rw [List.reverse_concat, List.find?_cons]
  by_cases h : p.1.display = name
  · rw [if_pos h, h, beq_self_eq_true]
    rfl
  · rw [if_neg h, beq_eq_false_iff_ne.2 h]

theorem boundNames_concat (entries : List (Datum × Datum)) (p : Datum × Datum) :
    boundNames (entries ++ [p]) =
      boundNames entries ++ if binds p.2 = true then [p.1.display] else [] := by
  unfold boundNames
  rw [List.filter_append, List.map_append, List.filter_cons]
  congr 1
  split <;> rfl

/-- The last entry for an alias decides whether it is bound, and it is bound once. -/
structure DecidedByLast (entries : List (Datum × Datum)) (bound : List String) : Prop where
  nodup : bound.Nodup
  not_mem : ∀ name d, lastFor? entries name = some d → binds d = false → name ∉ bound

/-- A further entry is decisive if no entry before it binds its alias. -/
theorem decidedByLast_concat_iff (entries : List (Datum × Datum)) (p : Datum × Datum) :
    DecidedByLast (entries ++ [p]) (boundNames (entries ++ [p])) ↔
      DecidedByLast entries (boundNames entries) ∧ p.1.display ∉ boundNames entries := by
  rw [boundNames_concat]
  have hother : ∀ {name}, p.1.display ≠ name →
      lastFor? (entries ++ [p]) name = lastFor? entries name :=
    fun hne => (lastFor?_concat entries p _).trans (if_neg hne)
  constructor
  · intro h
    have hp : p.1.display ∉ boundNames entries := by
      intro hmem
      cases hbinds : binds p.2 with
      | true =>
        have hnodup := h.nodup
        rw [if_pos hbinds] at hnodup
        exact (List.nodup_append.1 hnodup).2.2 _ hmem _ (List.mem_singleton_self _) rfl
      | false =>
        have hlast : lastFor? (entries ++ [p]) p.1.display = some p.2 :=
          (lastFor?_concat entries p _).trans (if_pos rfl)
        exact h.not_mem _ _ hlast hbinds (List.mem_append_left _ hmem)
    refine ⟨⟨(List.nodup_append.1 h.nodup).1, fun name d hlast hbinds hmem => ?_⟩, hp⟩
    by_cases hname : p.1.display = name
    · exact hp (hname ▸ hmem)
    · exact h.not_mem name d ((hother hname).trans hlast) hbinds (List.mem_append_left _ hmem)
  · rintro ⟨h, hp⟩
    constructor
    · split
      · exact List.nodup_append.2 ⟨h.nodup, List.nodup_singleton _, fun a ha b hb heq =>
          hp (List.mem_singleton.1 hb ▸ heq ▸ ha)⟩
      · rw [List.append_nil]
        exact h.nodup
    · intro name d hlast hbinds hmem
      by_cases hname : p.1.display = name
      · rw [lastFor?_concat, if_pos hname, Option.some_inj] at hlast
        rw [hlast, hbinds, if_neg Bool.false_ne_true, List.append_nil, ← hname] at hmem
        exact hp hmem
      · rcases List.mem_append.1 hmem with hmem | hmem
        · exact h.not_mem name d ((hother hname).symm.trans hlast) hbinds hmem
        · split at hmem
          · exact hname (List.mem_singleton.1 hmem).symm
          · cases hmem

/-- The last entries decide exactly if no entry that binds its alias has another one for it behind
it. -/
theorem decidedByLast_iff : DecidedByLast entries (boundNames entries) ↔
    entries.Pairwise fun p q => p.1.display = q.1.display → binds p.2 = false := by
  induction entries using List.reverseRecOn with
  | nil => exact ⟨fun _ => .nil, fun _ => ⟨List.nodup_nil, fun _ _ h => nomatch h⟩⟩
  | append_singleton entries p ih =>
    have hp : p.1.display ∉ boundNames entries ↔
        ∀ q ∈ entries, q.1.display = p.1.display → binds q.2 = false := by
      rw [mem_boundNames]
      simp only [not_exists, not_and, Bool.eq_false_iff]
      exact forall₂_congr fun q _ => imp_not_comm
    rw [decidedByLast_concat_iff, List.pairwise_append, ih, hp]
    simp

end Entries

/-! ## Scripts that were read -/

variable {identifier : String} {d : Datum} {s : WalkScript}

/-- **What decides about an alias.** Take data that is read as a script, whatever the keys of its
blocks. The block of an alias is the one that the last entry for the alias declares. The bound
aliases are those of all entries that do not say otherwise, and a replay binds these. So the last
entry for an alias decides also whether it is bound, and no alias is bound twice, exactly if no
entry that binds an alias has another one for it behind it. -/
theorem blocks_of_last_entries (h : read identifier d = .ok s) :
    (∀ name, Option.Rel DeclaredAs (lastFor? (blockEntries d) name) (Entries.get? s.blocks name)) ∧
    s.bound = boundNames (blockEntries d) ∧
    (∀ registry a, s.replay registry = .ok a →
      ∀ name, name ∈ Entries.keys a.bindings ↔ name ∈ s.bound) ∧
    (DecidedByLast (blockEntries d) s.bound ↔ (blockEntries d).Pairwise fun p q =>
      p.1.display = q.1.display → binds p.2 = false) := by
  obtain ⟨-, hblocks, -⟩ := read_ok_iff_fields.1 h
  obtain ⟨entries, rs, hentries, hrs, hb, -⟩ := readBlocks_ok_iff.1 hblocks
  have hdeclared : s.blocks = (Blocks.ofEntries rs).declared := congrArg Blocks.declared hb
  have hbound : s.bound = boundNames entries :=
    (congrArg Blocks.bound hb).trans (bound_ofEntries hrs)
  rw [blockEntries_eq hentries, hdeclared, hbound]
  refine ⟨fun name => ?_, rfl, fun registry a hreplay name => ?_, decidedByLast_iff⟩
  · exact rel_mono (fun _ _ ⟨_, hread⟩ => declaredAs_of_readBlock hread) (rel_lastFor? hrs name)
  · rw [(replayed_of_replay hreplay).keys_bindings, List.mem_eraseDups, hbound]

/-- Two pairs of entries for one alias each: a number and its text, and null and its text.
The last entry of the first pair does not bind the alias. -/
def collidingDatum : Datum :=
  .ofFields [("blocks", .map none [
    (.int 1, .str "a.css"),
    (.str "1", .ofFields [("source", .str "b.css"), ("bind", .bool false)]),
    (.null, .str "c.css"),
    (.str "None", .str "d.css")])]

/-- The script that is read from the value. -/
def colliding : WalkScript where
  template := ⟨TemplateKind.base.typeName, .str "walk.yml", none⟩
  blocks := [("1", ⟨"b.css", ∅, []⟩), ("None", ⟨"d.css", ∅, []⟩)]
  bound := ["1", "None", "None"]
  elements := []

theorem blocks_of_last_entries_colliding :
    read "walk.yml" collidingDatum = .ok colliding ∧
      ["1", "None", "None"] = boundNames (blockEntries collidingDatum) ∧
      ∃ a, colliding.replay .initial = .ok a ∧ "1" ∈ Entries.keys a.bindings := by
  have hread : read "walk.yml" collidingDatum = .ok colliding := rfl
  obtain ⟨-, hbound, hreplay, -⟩ := blocks_of_last_entries hread
  obtain ⟨a, ha⟩ : ∃ a, colliding.replay .initial = .ok a := ⟨_, rfl⟩
  exact ⟨hread, hbound, a, ha, (hreplay .initial a ha "1").2 List.mem_cons_self⟩

/-- The last entry for an alias does not decide everything about it. -/
theorem not_decidedByLast_colliding : ¬∀ identifier d s, read identifier d = .ok s →
    DecidedByLast (blockEntries d) s.bound := by
  intro h
  have hdecided := h "walk.yml" collidingDatum colliding rfl
  exact hdecided.not_mem "1" _ rfl rfl List.mem_cons_self

end WalkScript

end StyleUsage
