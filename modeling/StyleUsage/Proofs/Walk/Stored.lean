import StyleUsage.Proofs.Analysis.Handles
import StyleUsage.Proofs.Block.Store
import StyleUsage.Proofs.Template.Rebuilt
import StyleUsage.Proofs.Walk.Accepted

/-!
# Replaying over stored blocks

A script names its blocks by aliases and its styles by an alias and a fragment. Here its blocks and
styles are made one after another in a store instead, every reference is looked up when its turn
comes, and every lookup may fail. For a script that was read the handles in the store stand one to
one for the names (`Accepted.handles`), and both ways of replaying it have the same outcome
(`Accepted.sameOutcome_replay`).
-/

namespace StyleUsage

/-- Blocks in a store, known by their names. -/
structure StoredBlocks where
  store : BlockStore
  byName : Entries String BlockId

/-- Why a script cannot be replayed over stored blocks. -/
inductive StoredReplayError where
  | replay (cause : ReplayError)
  /-- A name is to be bound that no block has. -/
  | unknownName (name : String)

namespace StoredBlocks

def empty : StoredBlocks := ⟨.empty, []⟩

/-- Make a block and its styles. -/
def add (w : StoredBlocks) (name : String) (block : BlockDeclaration) : StoredBlocks where
  store := (w.store.addBlock block.source false).2.makeStyles
    (w.store.addBlock block.source false).1 block.styles.toList
  byName := Entries.put w.byName name (w.store.addBlock block.source false).1

def ofDeclared (declared : Entries String BlockDeclaration) : StoredBlocks :=
  declared.foldl (fun w p => w.add p.1 p.2) empty

/-- The style that a reference stands for, blanks around it aside. -/
def resolve (w : StoredBlocks) (reference : String) : Except WalkError StyleId :=
  match splitReference (Text.stripChars reference.toList) with
  | none => .error (.invalidReference reference)
  | some (name, fragment) =>
    match Entries.get? w.byName (String.ofList name) with
    | none => .error (.unknownAlias reference)
    | some b =>
      match Entries.get? (w.store.block b).styles (String.ofList fragment) with
      | none => .error (.unknownStyle (String.ofList name) (String.ofList fragment))
      | some i => .ok i

def bindName (w : StoredBlocks) (a : Analysis BlockId StyleId) (name : String) :
    Except StoredReplayError (Analysis BlockId StyleId) :=
  match Entries.get? w.byName name with
  | some b => .ok (a.bind name b)
  | none => .error (.unknownName name)

def addReference (w : StoredBlocks) (a : Analysis BlockId StyleId) (reference : String) :
    Except StoredReplayError (Analysis BlockId StyleId) := do
  let i ← (w.resolve reference).mapError fun e => .replay (.reference e)
  .ok (a.addStyle i)

def markReference (w : StoredBlocks) (a : Analysis BlockId StyleId) (reference : String) :
    Except StoredReplayError (Analysis BlockId StyleId) := do
  let i ← (w.resolve reference).mapError fun e => .replay (.reference e)
  (a.markDynamic i).mapError fun e => .replay (.step e)

def walkElement (w : StoredBlocks) (a : Analysis BlockId StyleId) (e : WalkElement) :
    Except StoredReplayError (Analysis BlockId StyleId) := do
  let a ← a.startElement.mapError fun e => .replay (.step e)
  let a ← e.styles.foldlM w.addReference a
  let a ← e.dynamic.foldlM w.markReference a
  .ok a.endElement

end StoredBlocks

namespace WalkScript

def stored (s : WalkScript) : StoredBlocks := .ofDeclared s.blocks

/-- The analysis that the walk over stored blocks leads to. The template is rebuilt from the fields
of its descriptor. -/
def storedReplay (s : WalkScript) (registry : Registry) :
    Except StoredReplayError (Analysis BlockId StyleId) := do
  let template ← (registry.rebuildEntries (s.template.toDatum.entries?.getD [])).mapError
    fun e => .replay (.template e)
  let a ← s.bound.foldlM s.stored.bindName (Analysis.begin template)
  s.elements.foldlM s.stored.walkElement a

end WalkScript

/-! ## The blocks that are made -/

namespace StoredBlocks

/-- The blocks that are stored are those that are declared, each under its name alone. -/
structure Holds (w : StoredBlocks) (declared : Entries String BlockDeclaration) : Prop where
  wellFormed : w.store.WellFormed
  index_lt : ∀ {name b}, Entries.get? w.byName name = some b → b.index < w.store.blocks.length
  name_unique : ∀ {name name' b}, Entries.get? w.byName name = some b →
    Entries.get? w.byName name' = some b → name = name'
  keys_iff : ∀ name, name ∈ Entries.keys w.byName ↔ name ∈ Entries.keys declared
  source_eq : ∀ {name block b}, Entries.get? declared name = some block →
    Entries.get? w.byName name = some b → (w.store.block b).source = block.source
  exists_style_iff : ∀ {name block b}, Entries.get? declared name = some block →
    Entries.get? w.byName name = some b → ∀ f,
      (∃ i, Entries.get? (w.store.block b).styles f = some i) ↔ f ∈ block.styles

theorem holds_empty : empty.Holds [] where
  wellFormed := BlockStore.wellFormed_empty
  index_lt h := by cases h
  name_unique h := by cases h
  keys_iff _ := Iff.rfl
  source_eq h := by cases h
  exists_style_iff h := by cases h

variable {w : StoredBlocks} {declared : Entries String BlockDeclaration}

/-- A block is made beside the others; it takes the place of one of the same name. -/
theorem Holds.add (h : w.Holds declared) (name : String) (block : BlockDeclaration) :
    (w.add name block).Holds (Entries.put declared name block) := by
  let b : BlockId := (w.store.addBlock block.source false).1
  let store := (w.store.addBlock block.source false).2
  have hlen : store.blocks.length = w.store.blocks.length + 1 := List.length_append
  have hb : b.index < store.blocks.length := BlockStore.index_addBlock_lt ..
  have hmade : BlockStore.MadeStyles store (w.add name block).store b block.styles.toList :=
    BlockStore.madeStyles_makeStyles (h.wellFormed.addBlock block.source false) hb _
  have hlen' : (w.add name block).store.blocks.length = w.store.blocks.length + 1 :=
    hmade.length_blocks.trans hlen
  -- A name has the new block or one from before.
  have hcases : ∀ {n b'}, Entries.get? (w.add name block).byName n = some b' →
      (name = n ∧ b' = b) ∨ (name ≠ n ∧ Entries.get? w.byName n = some b') := by
    intro n b' hn
    change Entries.get? (Entries.put w.byName name b) n = some b' at hn
    rw [Entries.get?_put] at hn
    split at hn
    · next he => exact .inl ⟨he, (Option.some.inj hn).symm⟩
    · next hne => exact .inr ⟨hne, hn⟩
  have hnew : store.block b = ⟨block.source, [], false, []⟩ :=
    (BlockStore.block_addBlock _ _).trans (if_pos rfl)
  have hold : ∀ {n b'}, Entries.get? w.byName n = some b' →
      b ≠ b' ∧ (w.add name block).store.block b' = w.store.block b' := by
    intro n b' hn
    have hne : b' ≠ b := fun he => Nat.lt_irrefl _ (he ▸ h.index_lt hn)
    refine ⟨hne.symm, (hmade.block_of_ne hne.symm).trans ?_⟩
    exact (BlockStore.block_addBlock _ _).trans (if_neg hne)
  have hdeclared : ∀ {n}, name ≠ n →
      Entries.get? (Entries.put declared name block) n = Entries.get? declared n :=
    fun hne => (Entries.get?_put _ _ _ _).trans (if_neg hne)
  refine ⟨hmade.wellFormed, fun {n b'} hn => ?_, fun {n n' b'} hn hn' => ?_, fun n => ?_,
    fun {n block' b'} hblock hn => ?_, fun {n block' b'} hblock hn f => ?_⟩
  · rw [hlen']
    rcases hcases hn with ⟨-, rfl⟩ | ⟨-, hn⟩
    · exact Nat.lt_succ_self _
    · exact Nat.lt_succ_of_lt (h.index_lt hn)
  · rcases hcases hn with ⟨rfl, rfl⟩ | ⟨-, hn⟩
    · rcases hcases hn' with ⟨rfl, -⟩ | ⟨-, hn'⟩
      · rfl
      · exact absurd rfl (hold hn').1
    · rcases hcases hn' with ⟨-, rfl⟩ | ⟨-, hn'⟩
      · exact absurd rfl (hold hn).1
      · exact h.name_unique hn hn'
  · show n ∈ Entries.keys (Entries.put w.byName name b) ↔ _
    rw [Entries.mem_keys_put, Entries.mem_keys_put, h.keys_iff]
  · rcases hcases hn with ⟨rfl, rfl⟩ | ⟨hne, hn⟩
    · rw [Entries.get?_put, if_pos rfl] at hblock
      cases hblock
      rw [hmade.source, hnew]
    · rw [hdeclared hne] at hblock
      rw [(hold hn).2]
      exact h.source_eq hblock hn
  · rcases hcases hn with ⟨rfl, rfl⟩ | ⟨hne, hn⟩
    · rw [Entries.get?_put, if_pos rfl] at hblock
      cases hblock
      rw [hmade.exists_style_iff, hnew]
      simp [OrderedSet.mem_def]
    · rw [hdeclared hne] at hblock
      rw [(hold hn).2]
      exact h.exists_style_iff hblock hn f

theorem holds_ofDeclared (declared : Entries String BlockDeclaration) :
    (ofDeclared declared).Holds (Entries.ofPairs declared) := by
  induction declared using List.reverseRecOn with
  | nil => exact holds_empty
  | append_singleton declared p ih =>
    rw [Entries.ofPairs_concat]
    unfold ofDeclared at ih ⊢
    rw [List.foldl_append]
    exact ih.add p.1 p.2

def IsBlock (w : StoredBlocks) (name : String) (b : BlockId) : Prop :=
  Entries.get? w.byName name = some b

/-- An alias and a fragment stand for the style that the block of the alias has for the fragment. -/
def IsStyle (w : StoredBlocks) (x : StyleRef) (i : StyleId) : Prop :=
  ∃ b, w.IsBlock x.block b ∧ Entries.get? (w.store.block b).styles x.fragment = some i

theorem Holds.isBlock_unique (h : w.Holds declared) : Relator.BiUnique w.IsBlock := by
  refine ⟨fun name name' b hname hname' => h.name_unique hname hname', fun name b b' hb hb' => ?_⟩
  exact Option.some.inj (hb.symm.trans hb')

theorem Holds.isStyle_unique (h : w.Holds declared) : Relator.BiUnique w.IsStyle := by
  refine ⟨fun x y i => ?_, fun x i j => ?_⟩
  · rintro ⟨b, hb, hi⟩ ⟨b', hb', hi'⟩
    obtain ⟨howner, hfragment⟩ := h.wellFormed.style_eq hi
    obtain ⟨howner', hfragment'⟩ := h.wellFormed.style_eq hi'
    have hblock : x.block = y.block :=
      h.isBlock_unique.1 hb ((howner'.symm.trans howner) ▸ hb')
    obtain ⟨xb, xf⟩ := x
    obtain ⟨yb, yf⟩ := y
    exact congrArg₂ StyleRef.mk hblock (hfragment.symm.trans hfragment')
  · rintro ⟨b, hb, hi⟩ ⟨b', hb', hj⟩
    rw [h.isBlock_unique.2 hb' hb, hi] at hj
    exact Option.some.inj hj

end StoredBlocks

namespace WalkScript

open Analysis StoredBlocks

variable {s : WalkScript}

namespace Accepted

theorem holds_stored (h : s.Accepted) : s.stored.Holds s.blocks := by
  have hholds := holds_ofDeclared s.blocks
  rwa [Entries.ofPairs_eq_self h.names_nodup] at hholds

/-- The handles of the store stand one to one for the aliases, and for the pairs of an alias and a
fragment. -/
def handles (h : s.Accepted) : Handles s.catalog s.stored.store.catalog where
  block := s.stored.IsBlock
  style := s.stored.IsStyle
  block_unique := h.holds_stored.isBlock_unique
  style_unique := h.holds_stored.isStyle_unique
  source_eq := by
    intro name b hb
    obtain ⟨block, hblock⟩ := Entries.mem_keys_iff.1
      ((h.holds_stored.keys_iff name).1 (Entries.mem_keys_iff.2 ⟨b, hb⟩))
    show s.source name = (s.stored.store.block b).source
    rw [h.holds_stored.source_eq hblock hb, source, hblock]
    rfl
  owner_rel := by
    rintro x i ⟨b, hb, hi⟩
    show s.stored.IsBlock x.block (s.stored.store.style i).owner
    rw [(h.holds_stored.wellFormed.style_eq hi).1]
    exact hb
  fragment_eq := by
    rintro x i ⟨b, -, hi⟩
    exact (h.holds_stored.wellFormed.style_eq hi).2.symm

/-- A reference is resolved to the style in the store that stands for its pair, or fails alike. -/
theorem sameOutcome_resolve (h : s.Accepted) (reference : String) :
    SameOutcome id s.stored.IsStyle (s.resolve reference) (s.stored.resolve reference) := by
  unfold WalkScript.resolve StoredBlocks.resolve
  cases splitReference (Text.stripChars reference.toList) with
  | none => exact .error _
  | some p =>
    obtain ⟨name, fragment⟩ := p
    dsimp only
    have hkeys := h.holds_stored.keys_iff (String.ofList name)
    cases hblock : Entries.get? s.blocks (String.ofList name) with
    | none =>
      have hnone : Entries.get? s.stored.byName (String.ofList name) = none := by
        refine Entries.get?_eq_none fun hname => ?_
        obtain ⟨block, hsome⟩ := Entries.mem_keys_iff.1 (hkeys.1 hname)
        rw [hblock] at hsome
        cases hsome
      rw [hnone]
      exact .error _
    | some block =>
      obtain ⟨b, hb⟩ := Entries.mem_keys_iff.1 (hkeys.2 (Entries.mem_keys_iff.2 ⟨block, hblock⟩))
      have hstyle := h.holds_stored.exists_style_iff hblock hb (String.ofList fragment)
      rw [hb]
      dsimp only
      by_cases hmem : String.ofList fragment ∈ block.styles
      · obtain ⟨i, hi⟩ := hstyle.2 hmem
        rw [if_pos hmem, hi]
        exact .ok ⟨b, hb, hi⟩
      · have hnone : Entries.get? (s.stored.store.block b).styles (String.ofList fragment) = none :=
          Option.eq_none_iff_forall_ne_some.2 fun i hi => hmem (hstyle.1 ⟨i, hi⟩)
        rw [if_neg hmem, hnone]
        exact .error _

theorem resolve_stored (h : s.Accepted) {reference : String} {x : StyleRef}
    (hx : s.resolve reference = .ok x) :
    ∃ i, s.stored.resolve reference = .ok i ∧ s.stored.IsStyle x i := by
  have hsame := h.sameOutcome_resolve reference
  rw [hx] at hsame
  generalize s.stored.resolve reference = y at hsame
  cases hsame with
  | ok hi => exact ⟨_, rfl, hi⟩

end Accepted

/-! ## Both ways of replaying -/

namespace Accepted

variable {a : Analysis String StyleRef} {a' : Analysis BlockId StyleId}

theorem sameOutcome_bindName (h : s.Accepted) (hr : Renamed h.handles a a') {name : String}
    (hname : name ∈ s.bound) :
    SameOutcome (fun e => .replay (.step e)) (Renamed h.handles) (bindName a name)
      (s.stored.bindName a' name) := by
  obtain ⟨b, hb⟩ := Entries.mem_keys_iff.1
    ((h.holds_stored.keys_iff name).2 (h.bound_declared name hname))
  unfold bindName StoredBlocks.bindName
  rw [hb]
  exact .ok (hr.bind name (h := h.handles) hb)

theorem sameOutcome_walkElement (h : s.Accepted) (hr : Renamed h.handles a a') {e : WalkElement}
    (he : e ∈ s.elements) :
    SameOutcome (fun e => .replay (.step e)) (Renamed h.handles) (walkPairs a e)
      (s.stored.walkElement a' e) := by
  have hresolve : ∀ r ∈ e.styles ++ e.dynamic,
      ∃ i, s.stored.resolve r = .ok i ∧ h.handles.style (pairOf r) i :=
    fun r hr => h.resolve_stored (h.resolve_eq e he r hr)
  have hstart : SameOutcome (fun e => .replay (.step e)) (Renamed h.handles) a.startElement
      (a'.startElement.mapError fun e => StoredReplayError.replay (.step e)) :=
    hr.startElement.mapError_right _
  unfold walkPairs walkElement
  refine hstart.bind fun a a' hr => ?_
  refine SameOutcome.bind (R := Renamed h.handles) ?_ fun a a' hr => ?_
  · refine SameOutcome.foldlM (fun r hmem a a' hr => ?_) hr
    obtain ⟨i, hi, hrel⟩ := hresolve r (List.mem_append_left _ hmem)
    unfold addReference
    rw [hi]
    exact .ok (hr.addStyle hrel)
  · refine SameOutcome.bind (R := Renamed h.handles) ?_ fun a a' hr => .ok hr.endElement
    refine SameOutcome.foldlM (fun r hmem a a' hr => ?_) hr
    obtain ⟨i, hi, hrel⟩ := hresolve r (List.mem_append_right _ hmem)
    unfold markReference
    rw [hi]
    exact (hr.markDynamic hrel).mapError_right _

/-- Both ways of replaying a script fail with the same cause, or lead to analyses that differ in
their handles alone. -/
theorem sameOutcome_replay (h : s.Accepted) (registry : Registry) :
    SameOutcome .replay (Renamed h.handles) (s.replay registry) (s.storedReplay registry) := by
  rw [h.replay_eq]
  unfold storedReplay
  rw [Registry.rebuildEntries_toDatum]
  have htemplate : SameOutcome .replay Eq ((registry.rebuild s.template).mapError .template)
      ((registry.rebuild s.template).mapError fun e => StoredReplayError.replay (.template e)) :=
    .mapError_left ((SameOutcome.refl _).mapError_right _)
  refine htemplate.bind ?_
  rintro template _ rfl
  refine SameOutcome.mapError_left ?_
  refine SameOutcome.bind (R := Renamed h.handles) ?_ fun a a' hr => ?_
  · refine SameOutcome.foldlM (fun name hname a a' hr => ?_) (renamed_begin h.handles template)
    exact h.sameOutcome_bindName hr hname
  · refine SameOutcome.foldlM (fun e he a a' hr => ?_) hr
    exact h.sameOutcome_walkElement hr he

end Accepted

end WalkScript

end StyleUsage
