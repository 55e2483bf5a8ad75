import StyleUsage.Block.Store
import StyleUsage.Proofs.Collection.SetMemory
import StyleUsage.Proofs.Collection.Traversal
import Mathlib.Logic.Function.Basic

/-!
# Runs on named sets

Named sets are values: what happens to one of them changes no other. The same steps are taken once
more on sets as objects, each with a table in the memory that all share (`SetStore`). A store shows
the named sets (`Shows`), and every step has one effect on both (`Shows.effect`): it changes one
growing set, or puts a new one under a name. So a run goes on showing the named sets (`Shows.run`),
and a set stays as it is while it cannot change or no step changes it (`Owned.run`). What the sets
list is told by the items that were inserted (`NamedSets.members_run`).
-/

namespace StyleUsage

/-! ## What was inserted -/

namespace SetStep

variable {α : Type}

def changed? : SetStep α → Option String
  | .insert name _ | .insertAll name _ | .insertFrom name _ | .clear name => some name
  | .make .. | .unite .. | .freeze .. => none

/-- The items inserted into each set since it was last empty, after one more step. What is taken
over from a set are its items, each of them once. -/
def logged [DecidableEq α] (log : String → List α) : SetStep α → String → List α
  | .make _ name items => Function.update log name items
  | .insert name item => Function.update log name (log name ++ [item])
  | .insertAll name items => Function.update log name (log name ++ items)
  | .insertFrom name source => Function.update log name (log name ++ (log source).eraseDups)
  | .clear name => Function.update log name []
  | .unite name first others =>
    Function.update log name ((log first).eraseDups ++ others.flatMap fun o => (log o).eraseDups)
  | .freeze name source => Function.update log name (log source).eraseDups

/-- The kinds of the sets under their names, after one more step. -/
def kindsAfter (kinds : String → Option SetKind) : SetStep α → String → Option SetKind
  | .make kind name _ => Function.update kinds name (some kind)
  | .unite name _ _ => Function.update kinds name (some .growing)
  | .freeze name _ => Function.update kinds name (some .frozen)
  | _ => kinds

/-- A step can be taken if the set that it changes can change and there are sets under the names
from which it reads. -/
def Possible (kinds : String → Option SetKind) : SetStep α → Prop
  | .make .. => True
  | .insert name _ | .insertAll name _ | .clear name => kinds name = some .growing
  | .insertFrom name source => kinds name = some .growing ∧ ∃ kind, kinds source = some kind
  | .unite _ first others =>
    (∃ kind, kinds first = some kind) ∧ ∀ o ∈ others, ∃ kind, kinds o = some kind
  | .freeze _ source => ∃ kind, kinds source = some kind

/-- Steps can be taken one after another. -/
def AllPossible (kinds : String → Option SetKind) : List (SetStep α) → Prop
  | [] => True
  | s :: steps => s.Possible kinds ∧ AllPossible (s.kindsAfter kinds) steps

end SetStep

/-- The items inserted into each set since it was last empty, in order and with repetition. -/
def inserted {α : Type} [DecidableEq α] (steps : List (SetStep α)) : String → List α :=
  steps.foldl SetStep.logged fun _ => []

theorem inserted_concat {α : Type} [DecidableEq α] (steps : List (SetStep α)) (step : SetStep α) :
    inserted (steps ++ [step]) = step.logged (inserted steps) := by
  unfold inserted
  rw [List.foldl_append]
  rfl

namespace NamedSets

variable {α : Type} {s : NamedSets α} {name : String}

theorem members_of_get? {set : NamedSet α} (h : s.get? name = some set) :
    s.members name = set.members := by
  unfold members
  rw [h]

theorem kind_of_get? {set : NamedSet α} (h : s.get? name = some set) : s.kind name = set.kind := by
  unfold kind
  rw [h]

theorem members_put (s : NamedSets α) (name name' : String) (set : NamedSet α) :
    NamedSets.members (s.put name set) name' =
      if name = name' then set.members else s.members name' := by
  unfold members
  rw [Entries.get?_put]
  by_cases h : name = name'
  · rw [if_pos h, if_pos h]
  · rw [if_neg h, if_neg h]

variable [DecidableEq α]

def run (steps : List (SetStep α)) : NamedSets α := steps.foldl apply []

theorem run_concat (steps : List (SetStep α)) (step : SetStep α) :
    run (steps ++ [step]) = (run steps).apply step := by
  unfold run
  rw [List.foldl_append]
  rfl

/-- A set under one name lists what was logged for it. -/
theorem toList_members_put {log : String → List α} {items : List α} {set : NamedSet α}
    (h : ∀ name, (s.members name).toList = (log name).eraseDups)
    (hset : set.members.toList = items.eraseDups) (name name' : String) :
    (NamedSets.members (s.put name set) name').toList =
      (Function.update log name items name').eraseDups := by
  rw [members_put]
  by_cases hname : name = name'
  · subst hname
    rw [if_pos rfl, Function.update_self, hset]
  · rw [if_neg hname, Function.update_of_ne (Ne.symm hname), h]

/-- A set lists the items that were inserted since it was last empty, each once, in order of first
insertion. -/
theorem members_run (steps : List (SetStep α)) (name : String) :
    ((run steps).members name).toList = (inserted steps name).eraseDups := by
  induction steps using List.reverseRecOn generalizing name with
  | nil => rfl
  | append_singleton steps step ih =>
    rw [run_concat, inserted_concat]
    cases step with
    | make kind target items => exact toList_members_put ih (OrderedSet.toList_ofList items) target _
    | insert target item =>
      exact toList_members_put ih (OrderedSet.toList_insert_of_eq (ih target) item) target _
    | insertAll target items =>
      exact toList_members_put ih (OrderedSet.toList_insertAll_of_eq (ih target) items) target _
    | insertFrom target source =>
      refine toList_members_put ih ?_ target _
      rw [← ih source]
      exact OrderedSet.toList_insertAll_of_eq (ih target) _
    | clear target => exact toList_members_put ih rfl target _
    | unite target first others =>
      refine toList_members_put ih ?_ target _
      rw [OrderedSet.toList_union, List.flatMap_map, ih first]
      simp only [ih]
    | freeze target source =>
      refine toList_members_put ih ?_ target _
      rw [eraseDups_of_nodup (nodup_eraseDups _)]
      exact ih source

end NamedSets

/-! ## Sets as objects -/

namespace SetStore

variable {κ α : Type}

/-- A step changes no set, or another one than this. -/
def Spared (st : SetStore κ α) (r : SetRef) (step : SetStep α) : Prop :=
  step.changed?.bind st.names.get? ≠ some r

instance (st : SetStore κ α) (r : SetRef) (step : SetStep α) : Decidable (st.Spared r step) :=
  inferInstanceAs (Decidable (_ ≠ _))

def kinds (st : SetStore κ α) (name : String) : Option SetKind :=
  (st.names.get? name).map SetRef.kind

section Steps

variable [DecidableEq κ] (ident : α → κ)

/-- No step of a run changes this set, whatever its name leads to by then. -/
def SparedByAll (r : SetRef) : SetStore κ α → List (SetStep α) → Prop
  | _, [] => True
  | st, s :: steps => st.Spared r s ∧ ∀ st', st.step ident s = .ok st' → SparedByAll r st' steps

end Steps

section Finding

variable {st : SetStore κ α} {name : String} {r : SetRef}

theorem find_ok_iff : st.find name = .ok r ↔ st.names.get? name = some r := by
  unfold find
  cases st.names.get? name <;> simp

theorem growing_ok_iff :
    st.growing name = .ok r ↔ st.names.get? name = some r ∧ r.kind = .growing := by
  unfold growing
  rw [bind_eq_ok_iff]
  simp only [find_ok_iff]
  constructor
  · rintro ⟨q, hq, h⟩
    split at h
    · next hkind =>
      cases h
      exact ⟨hq, hkind⟩
    · cases h
  · rintro ⟨hr, hkind⟩
    exact ⟨r, hr, if_pos hkind⟩

theorem exists_find_iff : (∃ r, st.find name = .ok r) ↔ ∃ kind, st.kinds name = some kind := by
  unfold kinds
  simp only [find_ok_iff, Option.map_eq_some_iff]
  constructor
  · rintro ⟨r, h⟩
    exact ⟨r.kind, r, h, rfl⟩
  · rintro ⟨kind, r, h, -⟩
    exact ⟨r, h⟩

theorem exists_growing_iff : (∃ r, st.growing name = .ok r) ↔ st.kinds name = some .growing := by
  unfold kinds
  simp only [growing_ok_iff, Option.map_eq_some_iff]

end Finding

/-! ## What a store shows -/

section Shows

variable {ident : α → κ} {st st' : SetStore κ α} {s : NamedSets α} {name : String} {r : SetRef}

/-- A store shows named sets: under each name there is a set of the same kind with the same members,
and no two names share a table. -/
structure Shows (ident : α → κ) (st : SetStore κ α) (s : NamedSets α) : Prop where
  kinds : ∀ name, st.kinds name = (s.get? name).map NamedSet.kind
  lists : ∀ {name r}, st.names.get? name = some r →
    SetMemory.Lists ident st.memory r (s.members name)
  apart : ∀ {name name' r r'}, st.names.get? name = some r → st.names.get? name' = some r' →
    r.table = r'.table → name = name'

theorem shows_empty : Shows ident (empty : SetStore κ α) [] where
  kinds _ := rfl
  lists h := by cases h
  apart h := by cases h

theorem kinds_enter (st : SetStore κ α) (name : String) (made : SetRef × SetMemory κ α) :
    (st.enter name made).kinds = Function.update st.kinds name (some made.1.kind) := by
  funext name'
  unfold kinds enter
  rw [Entries.get?_put]
  by_cases h : name = name'
  · subst h
    rw [if_pos rfl, Function.update_self]
    rfl
  · rw [if_neg h, Function.update_of_ne (Ne.symm h)]

theorem Shows.get? (h : Shows ident st s) (hr : st.names.get? name = some r) :
    s.get? name = some ⟨r.kind, s.members name⟩ := by
  have hkind := h.kinds name
  unfold SetStore.kinds at hkind
  rw [hr] at hkind
  obtain ⟨set, hset, hk⟩ := Option.map_eq_some_iff.1 hkind.symm
  rw [hset, NamedSets.members_of_get? hset, ← hk]

/-- What a store shows when one of its sets has changed. -/
theorem Shows.changed (h : Shows ident st s) (hr : st.names.get? name = some r)
    {m : SetMemory κ α} {set : OrderedSet α} (hm : SetMemory.Changes ident st.memory m r set) :
    Shows ident ⟨m, st.names⟩ (s.withMembers name set) where
  kinds name' := by
    have hkind : s.kind name = r.kind := NamedSets.kind_of_get? (h.get? hr)
    show st.kinds name' = _
    unfold NamedSets.withMembers
    rw [Entries.get?_put, hkind]
    by_cases hname : name = name'
    · subst hname
      rw [if_pos rfl]
      unfold SetStore.kinds
      rw [hr]
      rfl
    · rw [if_neg hname, h.kinds name']
  lists {name' r'} hr' := by
    show SetMemory.Lists ident m r' (NamedSets.members (s.put name _) name')
    rw [NamedSets.members_put]
    by_cases hname : name = name'
    · subst hname
      cases hr.symm.trans hr'
      rw [if_pos rfl]
      exact hm.lists
    · rw [if_neg hname]
      exact hm.lists_of_ne (fun htable => hname (h.apart hr hr' htable.symm)) (h.lists hr')
  apart := h.apart

/-- What a store shows when a set with a new table was put under a name. -/
theorem Shows.entered (h : Shows ident st s) (hr : r.table = st.memory.tables.length)
    {m : SetMemory κ α} {set : OrderedSet α} (hm : SetMemory.Changes ident st.memory m r set) :
    Shows ident ⟨m, st.names.put name r⟩ (s.put name ⟨r.kind, set⟩) where
  kinds name' := by
    have hkinds := congrFun (kinds_enter st name (r, m)) name'
    refine hkinds.trans ?_
    rw [Entries.get?_put]
    by_cases hname : name = name'
    · subst hname
      rw [if_pos rfl, Function.update_self]
      rfl
    · rw [if_neg hname, Function.update_of_ne (Ne.symm hname), h.kinds name']
  lists {name' r'} hr' := by
    change (st.names.put name r).get? name' = some r' at hr'
    rw [Entries.get?_put] at hr'
    rw [NamedSets.members_put]
    by_cases hname : name = name'
    · rw [if_pos hname] at hr' ⊢
      cases hr'
      exact hm.lists
    · rw [if_neg hname] at hr' ⊢
      have hlt := (h.lists hr').lt
      exact hm.lists_of_ne (by omega) (h.lists hr')
  apart {name₁ name₂ r₁ r₂} h₁ h₂ htable := by
    change (st.names.put name r).get? name₁ = some r₁ at h₁
    change (st.names.put name r).get? name₂ = some r₂ at h₂
    rw [Entries.get?_put] at h₁ h₂
    -- A table that was there before is not the new one.
    split at h₁ <;> split at h₂
    · next e₁ e₂ => exact e₁.symm.trans e₂
    · cases h₁
      have hlt := (h.lists h₂).lt
      omega
    · cases h₂
      have hlt := (h.lists h₁).lt
      omega
    · exact h.apart h₁ h₂ htable

/-- A set has a table, and every name that leads to this table leads to this set. -/
structure Owned (st : SetStore κ α) (r : SetRef) : Prop where
  lt : r.table < st.memory.tables.length
  only : ∀ {name r'}, st.names.get? name = some r' → r'.table = r.table → r' = r

theorem Shows.owned (h : Shows ident st s) (hr : st.names.get? name = some r) : st.Owned r where
  lt := (h.lists hr).lt
  only {name' r'} hr' htable := by
    have hname := h.apart hr' hr htable
    subst hname
    exact Option.some.inj (hr'.symm.trans hr)

theorem Shows.flatMap_items (h : Shows ident st s) {names : List String} {rs : List SetRef}
    (hrs : names.mapM st.find = .ok rs) :
    rs.flatMap st.memory.items = (names.map s.members).flatMap OrderedSet.toList := by
  have heach : List.Forall₂ (fun name r => st.memory.items r = (s.members name).toList) names rs :=
    (mapM_eq_ok_iff.1 hrs).imp fun name r hr => (h.lists (find_ok_iff.1 hr)).items_eq
  clear hrs
  induction heach with
  | nil => rfl
  | cons hitems _ ih => rw [List.flatMap_cons, List.map_cons, List.flatMap_cons, hitems, ih]

end Shows

/-! ## One effect on both sides -/

section Effect

variable [DecidableEq α] {ident : α → κ} {st st' : SetStore κ α} {s : NamedSets α} {name : String}
  {r : SetRef} {step : SetStep α}

/-- What a step does, on both sides: either it changes one growing set where it is, or it puts a set
with a new table under a name. -/
inductive Effect (ident : α → κ) (st : SetStore κ α) (s : NamedSets α)
    (step : SetStep α) (st' : SetStore κ α) : Prop where
  | changed {name : String} {r : SetRef} {m : SetMemory κ α} {set : OrderedSet α}
      (hname : step.changed? = some name) (hr : st.names.get? name = some r)
      (hkind : r.kind = .growing) (hm : SetMemory.Changes ident st.memory m r set)
      (hst : st' = ⟨m, st.names⟩) (hs : s.apply step = s.withMembers name set)
      (hkinds : step.kindsAfter st.kinds = st.kinds)
  | entered {name : String} {r : SetRef} {m : SetMemory κ α} {set : OrderedSet α}
      (hr : r.table = st.memory.tables.length)
      (hm : SetMemory.Changes ident st.memory m r set)
      (hst : st' = ⟨m, st.names.put name r⟩) (hs : s.apply step = s.put name ⟨r.kind, set⟩)
      (hkinds : step.kindsAfter st.kinds = Function.update st.kinds name (some r.kind))

/-- The named sets go along with a step of the store. -/
theorem Effect.shows (he : Effect ident st s step st') (h : Shows ident st s) :
    Shows ident st' (s.apply step) := by
  cases he with
  | changed _ hr _ hm hst hs _ =>
    rw [hst, hs]
    exact h.changed hr hm
  | entered hr hm hst hs _ =>
    rw [hst, hs]
    exact h.entered hr hm

theorem Effect.kinds_eq (he : Effect ident st s step st') :
    st'.kinds = step.kindsAfter st.kinds := by
  cases he with
  | changed _ _ _ _ hst _ hkinds =>
    rw [hst, hkinds]
    rfl
  | entered _ _ hst _ hkinds =>
    rw [hst, hkinds]
    exact kinds_enter _ _ (_, _)

/-- A step leaves a set as it is if the set cannot change, or the step does not change it. -/
theorem Owned.effect (ho : st.Owned r) (he : Effect ident st s step st')
    (hstay : r.kind = .frozen ∨ st.Spared r step) :
    st'.Owned r ∧ st'.memory.tables[r.table]? = st.memory.tables[r.table]? := by
  cases he with
  | @changed name r' m set hname hr' hkind hm hst _ _ =>
    subst hst
    -- A set that changes and has the table of this set is this set.
    have hne : r.table ≠ r'.table := by
      intro htable
      have hsame : r' = r := ho.only hr' htable.symm
      subst hsame
      rcases hstay with hfrozen | hother
      · rw [hfrozen] at hkind
        cases hkind
      · apply hother
        rw [hname]
        exact hr'
    exact ⟨⟨ho.lt.trans_le hm.length_le, ho.only⟩, hm.kept _ hne ho.lt⟩
  | @entered name r' m set hr' hm hst _ _ =>
    subst hst
    have hne : r.table ≠ r'.table := by
      have hlt := ho.lt
      omega
    refine ⟨⟨ho.lt.trans_le hm.length_le, ?_⟩, hm.kept _ hne ho.lt⟩
    intro name₁ r₁ h₁ htable
    change (st.names.put name r').get? name₁ = some r₁ at h₁
    rw [Entries.get?_put] at h₁
    split at h₁
    · cases h₁
      exact absurd htable.symm hne
    · exact ho.only h₁ htable

end Effect

section Runs

variable [DecidableEq κ] {ident : α → κ} {st st' : SetStore κ α} {s : NamedSets α} {name : String}
  {r : SetRef} {step : SetStep α}

/-! ## Steps and runs -/

/-- A step can be taken exactly if the kinds of the sets that it names allow it. -/
theorem exists_step_iff : (∃ st', st.step ident step = .ok st') ↔ step.Possible st.kinds := by
  cases step with
  | make kind name items => exact ⟨fun _ => trivial, fun _ => ⟨_, rfl⟩⟩
  | insert name item => exact exists_bind_iff.trans exists_growing_iff
  | insertAll name items => exact exists_bind_iff.trans exists_growing_iff
  | insertFrom name source =>
    exact exists_bind_bind_iff.trans (and_congr exists_growing_iff exists_find_iff)
  | clear name => exact exists_bind_iff.trans exists_growing_iff
  | unite name first others =>
    refine exists_bind_bind_iff.trans (and_congr exists_find_iff ?_)
    rw [exists_mapM_ok_iff]
    simp only [exists_find_iff]
  | freeze name source => exact exists_bind_iff.trans exists_find_iff

theorem run_cons_ok_iff {steps : List (SetStep α)} {st'' : SetStore κ α} :
    st.run ident (step :: steps) = .ok st'' ↔
      ∃ st', st.step ident step = .ok st' ∧ st'.run ident steps = .ok st'' := by
  unfold run
  rw [List.foldlM_cons]
  exact bind_eq_ok_iff

variable [DecidableEq α] (hident : Function.Injective ident)

include hident

theorem Shows.effect (h : Shows ident st s) (hstep : st.step ident step = .ok st') :
    Effect ident st s step st' := by
  cases step with
  | make kind name items =>
    cases hstep
    exact .entered rfl (SetMemory.changes_make hident _ _ _) rfl rfl rfl
  | insert name item =>
    obtain ⟨r, hr, hstep⟩ := bind_eq_ok_iff.1 hstep
    obtain ⟨hr, hkind⟩ := growing_ok_iff.1 hr
    cases hstep
    exact .changed rfl hr hkind (SetMemory.changes_insert hident (h.lists hr) item) rfl rfl rfl
  | insertAll name items =>
    obtain ⟨r, hr, hstep⟩ := bind_eq_ok_iff.1 hstep
    obtain ⟨hr, hkind⟩ := growing_ok_iff.1 hr
    cases hstep
    exact .changed rfl hr hkind (SetMemory.changes_insertAll hident (h.lists hr) items) rfl rfl rfl
  | insertFrom name source =>
    obtain ⟨r, hr, hstep⟩ := bind_eq_ok_iff.1 hstep
    obtain ⟨other, hother, hstep⟩ := bind_eq_ok_iff.1 hstep
    obtain ⟨hr, hkind⟩ := growing_ok_iff.1 hr
    cases hstep
    rw [(h.lists (find_ok_iff.1 hother)).items_eq]
    exact .changed rfl hr hkind (SetMemory.changes_insertAll hident (h.lists hr) _) rfl rfl rfl
  | clear name =>
    obtain ⟨r, hr, hstep⟩ := bind_eq_ok_iff.1 hstep
    obtain ⟨hr, hkind⟩ := growing_ok_iff.1 hr
    cases hstep
    exact .changed rfl hr hkind (SetMemory.changes_clear (h.lists hr)) rfl rfl rfl
  | unite name first others =>
    obtain ⟨r, hr, hstep⟩ := bind_eq_ok_iff.1 hstep
    obtain ⟨rs, hrs, hstep⟩ := bind_eq_ok_iff.1 hstep
    cases hstep
    have hlists : List.Forall₂ (SetMemory.Lists ident st.memory) rs (others.map s.members) := by
      rw [List.forall₂_map_right_iff]
      refine List.Forall₂.flip ((mapM_eq_ok_iff.1 hrs).imp fun o q hq => ?_)
      exact h.lists (find_ok_iff.1 hq)
    exact .entered rfl (SetMemory.changes_unite hident (h.lists (find_ok_iff.1 hr)) hlists) rfl rfl
      rfl
  | freeze name source =>
    obtain ⟨r, hr, hstep⟩ := bind_eq_ok_iff.1 hstep
    cases hstep
    exact .entered rfl (SetMemory.changes_freeze hident (h.lists (find_ok_iff.1 hr))) rfl rfl rfl

/-- A store goes on showing the named sets along a run. -/
theorem Shows.run (h : Shows ident st s) {steps : List (SetStep α)}
    (hrun : st.run ident steps = .ok st') : Shows ident st' (steps.foldl NamedSets.apply s) := by
  induction steps generalizing st s with
  | nil =>
    cases hrun
    exact h
  | cons step steps ih =>
    obtain ⟨st₁, hstep, hrun⟩ := run_cons_ok_iff.1 hrun
    exact ih ((h.effect hident hstep).shows h) hrun

theorem shows_run {steps : List (SetStep α)} (hrun : empty.run ident steps = .ok st) :
    Shows ident st (NamedSets.run steps) :=
  shows_empty.run hident hrun

theorem Shows.exists_run_iff (h : Shows ident st s) (steps : List (SetStep α)) :
    (∃ st', st.run ident steps = .ok st') ↔ SetStep.AllPossible st.kinds steps := by
  induction steps generalizing st s with
  | nil => exact ⟨fun _ => trivial, fun _ => ⟨st, rfl⟩⟩
  | cons step steps ih =>
    have hstep : (∃ st', st.step ident step = .ok st') ↔ step.Possible st.kinds := exists_step_iff
    rw [SetStep.AllPossible, ← hstep]
    constructor
    · rintro ⟨st'', hrun⟩
      obtain ⟨st', hstep, hrun⟩ := run_cons_ok_iff.1 hrun
      have heffect := h.effect hident hstep
      rw [← heffect.kinds_eq, ← ih (heffect.shows h)]
      exact ⟨⟨st', hstep⟩, st'', hrun⟩
    · rintro ⟨⟨st', hstep⟩, hrest⟩
      have heffect := h.effect hident hstep
      rw [← heffect.kinds_eq, ← ih (heffect.shows h)] at hrest
      obtain ⟨st'', hrun⟩ := hrest
      exact ⟨st'', run_cons_ok_iff.2 ⟨st', hstep, hrun⟩⟩

/-- A set that cannot change, or that no step of a run changes, lists at the end what it did. -/
theorem Owned.run (h : Shows ident st s) (ho : st.Owned r) {steps : List (SetStep α)}
    (hrun : st.run ident steps = .ok st')
    (hstay : r.kind = .frozen ∨ st.SparedByAll ident r steps) :
    st'.memory.items r = st.memory.items r := by
  induction steps generalizing st s with
  | nil =>
    cases hrun
    rfl
  | cons step steps ih =>
    obtain ⟨st₁, hstep, hrun⟩ := run_cons_ok_iff.1 hrun
    have heffect := h.effect hident hstep
    obtain ⟨ho₁, htable⟩ := ho.effect heffect (hstay.imp_right And.left)
    have hrest := ih (heffect.shows h) ho₁ hrun (hstay.imp_right fun hall => hall.2 st₁ hstep)
    exact hrest.trans (SetMemory.items_congr htable)

/-- A union is a new growing set. It lists the items of its sets, one set after another and each
item once, and leaves every set as it was. -/
theorem Shows.unite (h : Shows ident st s) {first : String} {others : List String}
    (hstep : st.step ident (.unite name first others) = .ok st') :
    ∃ u r rs, st'.names.get? name = some u ∧ u.kind = .growing ∧
      u.table = st.memory.tables.length ∧
      st.find first = .ok r ∧ others.mapM st.find = .ok rs ∧
      st'.memory.items u = (st.memory.items r ++ rs.flatMap st.memory.items).eraseDups ∧
      ∀ name' r', st.names.get? name' = some r' → st'.memory.items r' = st.memory.items r' := by
  have heffect := h.effect hident hstep
  have hshows := heffect.shows h
  obtain ⟨r, hr, hrest⟩ := bind_eq_ok_iff.1 hstep
  obtain ⟨rs, hrs, hst⟩ := bind_eq_ok_iff.1 hrest
  have hst' : st' = st.enter name (st.memory.unite ident r rs) := (Except.ok.inj hst).symm
  have hu : st'.names.get? name = some ⟨.growing, st.memory.tables.length⟩ := by
    rw [hst']
    exact (Entries.get?_put _ _ _ _).trans (if_pos rfl)
  refine ⟨_, r, rs, hu, rfl, rfl, hr, hrs, ?_, fun name' r' hr' => ?_⟩
  · rw [(hshows.lists hu).items_eq, (h.lists (find_ok_iff.1 hr)).items_eq, h.flatMap_items hrs,
      ← OrderedSet.toList_union]
    show (NamedSets.members (s.put name _) name).toList = _
    rw [NamedSets.members_put, if_pos rfl]
  · exact SetMemory.items_congr ((h.owned hr').effect heffect (.inr nofun)).2

/-- **Sets as lists in order of insertion.** Steps can be taken exactly if their sets are there and
those that change can. Then each set has the items that were inserted since it was last empty, each
once and in order of first insertion, its answers are those of this list, and it is the set that the
named sets have under its name. A union is a new growing set of the items of its sets, and changes
none of them. Whatever steps follow, a set that cannot change, or that none of them changes, stays
as it is. -/
theorem sets_of_run (steps : List (SetStep α)) :
    ((∃ st, empty.run ident steps = .ok st) ↔ SetStep.AllPossible (fun _ => none) steps) ∧
    ∀ st, empty.run ident steps = .ok st →
      (∀ name r, st.names.get? name = some r →
        st.memory.Answers ident r (inserted steps name).eraseDups ∧
        ∃ set, (NamedSets.run steps).get? name = some ⟨r.kind, set⟩ ∧
          set.toList = st.memory.items r ∧
          ∀ xs, set.containsAll xs = st.memory.containsAll ident r xs) ∧
      (∀ name first others st', st.step ident (.unite name first others) = .ok st' →
        ∃ u r rs, st'.names.get? name = some u ∧ u.kind = .growing ∧
          u.table = st.memory.tables.length ∧
          st.find first = .ok r ∧ others.mapM st.find = .ok rs ∧
          st'.memory.items u = (st.memory.items r ++ rs.flatMap st.memory.items).eraseDups ∧
          ∀ name' r', st.names.get? name' = some r' → st'.memory.items r' = st.memory.items r') ∧
      (∀ name r, st.names.get? name = some r → ∀ more st', st.run ident more = .ok st' →
        r.kind = .frozen ∨ st.SparedByAll ident r more →
        st'.memory.items r = st.memory.items r) := by
  refine ⟨shows_empty.exists_run_iff hident steps, fun st hrun => ?_⟩
  have hshows : Shows ident st (NamedSets.run steps) := shows_run hident hrun
  refine ⟨fun name r hr => ?_, fun name first others st' hstep => hshows.unite hident hstep,
    fun name r hr more st' hmore hstay => (hshows.owned hr).run hident hshows hmore hstay⟩
  have hlists : SetMemory.Lists ident st.memory r ((NamedSets.run steps).members name) :=
    hshows.lists hr
  have hanswers := hlists.answers hident
  rw [NamedSets.members_run] at hanswers
  exact ⟨hanswers, _, hshows.get? hr, hlists.items_eq.symm,
    fun xs => (hlists.containsAll_eq hident xs).symm⟩

end Runs

/-- Two styles that look alike are two items. A snapshot and a union are as they were made after
their set was cleared and grew again. -/
theorem sets_of_run_alike :
    let a : StyleId := ⟨0⟩
    let b : StyleId := ⟨1⟩
    let c : StyleId := ⟨2⟩
    let blocks : BlockStore := ((BlockStore.empty.addTwin ⟨0⟩ "x").2.addTwin ⟨0⟩ "x").2
    let steps : List (SetStep StyleId) := [.make .growing "s" [a, b, a], .freeze "f" "s",
      .insertFrom "s" "s", .insert "s" c, .unite "u" "f" ["s", "f"]]
    let more : List (SetStep StyleId) := [.clear "s", .insert "s" b]
    let s : SetRef := ⟨.growing, 0⟩
    let f : SetRef := ⟨.frozen, 1⟩
    let u : SetRef := ⟨.growing, 2⟩
    blocks.style a = blocks.style b ∧
      ∃ st st', empty.run StyleId.index steps = .ok st ∧
        st.names = [("s", s), ("f", f), ("u", u)] ∧
        st.memory.Answers StyleId.index f [a, b] ∧
        st.memory.Answers StyleId.index u [a, b, c] ∧
        st.run StyleId.index more = .ok st' ∧ st'.memory.items s = [b] ∧
        st'.memory.items f = [a, b] ∧ st'.memory.items u = [a, b, c] := by
  intro a b c blocks steps more s f u
  have hident : Function.Injective StyleId.index := fun x y h => by
    cases x
    cases y
    cases h
    rfl
  let names : Entries String SetRef := [("s", s), ("f", f), ("u", u)]
  let t : Entries Nat StyleId := [(0, a), (1, b)]
  let st : SetStore Nat StyleId := ⟨⟨[t ++ [(2, c)], t, t ++ [(2, c)]]⟩, names⟩
  let st₁ : SetStore Nat StyleId := ⟨⟨[[], t, t ++ [(2, c)]]⟩, names⟩
  let st₂ : SetStore Nat StyleId := ⟨⟨[[(1, b)], t, t ++ [(2, c)]]⟩, names⟩
  have hrun : empty.run StyleId.index steps = .ok st := by decide +kernel
  have hclear : st.step StyleId.index (.clear "s") = .ok st₁ := by decide +kernel
  have hmore : st.run StyleId.index more = .ok st₂ := by decide +kernel
  have hspared : st.SparedByAll StyleId.index u more := by
    refine ⟨by decide, fun st' h => ?_⟩
    cases hclear.symm.trans h
    exact ⟨by decide, fun _ _ => trivial⟩
  obtain ⟨-, hall⟩ := sets_of_run hident steps
  obtain ⟨hsets, -, hstay⟩ := hall st hrun
  exact ⟨rfl, st, st₂, hrun, rfl, (hsets "f" f rfl).1, (hsets "u" u rfl).1, hmore, rfl,
    hstay "f" f rfl more st₂ hmore (.inl rfl), hstay "u" u rfl more st₂ hmore (.inr hspared)⟩

end SetStore

end StyleUsage
