import StyleUsage.Analysis.StoredScope
import StyleUsage.Proofs.Analysis.Step
import StyleUsage.Proofs.Collection.OrderedSet
import StyleUsage.Proofs.Collection.SetMemory
import Mathlib.Data.List.DropRight

/-!
# Calls on the element being walked

The pending styles can be reached from outside and cleared there, so an element may be open on a set
without members. What a scope knows is told by the calls that did not fail (`Scope.Tracks`): the
styles added since the last call that took them away (`ScopeCall.current`), those added to the
element at all (`ScopeCall.ofElement`), and the last call that opens or closes (`ScopeCall.last?`).
The same calls are made once more on a scope that has its set in the memory of all sets
(`StoredScope`), part by part as they change it. Such a scope shows one that has values (`Shows`):
each call has one effect on both (`Shows.exec`), and so have all of them (`Shows.after`). A table
that is not that of the pending set stays as it is (`Apart.after`).
-/

namespace StyleUsage

namespace ScopeCall

variable {σ : Type}

def added? : ScopeCall σ → Option σ
  | .add x => some x
  | _ => none

/-- Whether a call takes the pending styles away. -/
def endsCurrent : ScopeCall σ → Bool
  | .add _ => false
  | _ => true

def endsElement : ScopeCall σ → Bool
  | .start | .commit => true
  | _ => false

def opensOrCloses : ScopeCall σ → Bool
  | .clearPending => false
  | _ => true

/-- The styles added since the last call of some kind, in order and with repetition. -/
def addedSince (ends : ScopeCall σ → Bool) (log : List (ScopeCall σ)) : List σ :=
  (log.rtakeWhile fun c => !ends c).filterMap added?

/-- The styles added since the last call that took the pending ones away. -/
def current (log : List (ScopeCall σ)) : List σ := addedSince endsCurrent log

/-- The styles added to the element, also those that were cleared since. -/
def ofElement (log : List (ScopeCall σ)) : List σ := addedSince endsElement log

/-- The last call that opens or closes the scope. -/
def last? (log : List (ScopeCall σ)) : Option (ScopeCall σ) := (log.filter opensOrCloses).getLast?

theorem addedSince_concat (ends : ScopeCall σ → Bool) (log : List (ScopeCall σ)) (c : ScopeCall σ) :
    addedSince ends (log ++ [c]) =
      if ends c then [] else addedSince ends log ++ c.added?.toList := by
  unfold addedSince
  rw [List.rtakeWhile_concat]
  cases ends c with
  | true => rfl
  | false => cases c <;> simp [added?]

@[simp] theorem current_concat (log : List (ScopeCall σ)) (c : ScopeCall σ) :
    current (log ++ [c]) = match c with
      | .add x => current log ++ [x]
      | _ => [] := by
  unfold current
  rw [addedSince_concat]
  cases c <;> rfl

@[simp] theorem ofElement_concat (log : List (ScopeCall σ)) (c : ScopeCall σ) :
    ofElement (log ++ [c]) = match c with
      | .add x => ofElement log ++ [x]
      | .clearPending => ofElement log
      | _ => [] := by
  unfold ofElement
  rw [addedSince_concat]
  cases c with
  | clearPending => exact List.append_nil _
  | _ => rfl

@[simp] theorem last?_concat (log : List (ScopeCall σ)) (c : ScopeCall σ) :
    last? (log ++ [c]) = match c with
      | .clearPending => last? log
      | c => some c := by
  unfold last?
  rw [List.filter_append]
  cases c <;> simp [opensOrCloses]

end ScopeCall

/-! ## Scopes with values -/

namespace Scope

variable {σ : Type} [DecidableEq σ] {s s' : Scope σ} {c : ScopeCall σ} {log : List (ScopeCall σ)}

/-- A scope is as the calls say that did not fail. -/
structure Tracks (log : List (ScopeCall σ)) (s : Scope σ) : Prop where
  lists : (s.pending.getD ∅).toList = (ScopeCall.current log).eraseDups
  pending_eq_none : s.pending = none ↔ ScopeCall.ofElement log = []
  isOpen_iff : s.isOpen = true ↔ ∃ c, ScopeCall.last? log = some c ∧ c ≠ .commit

theorem tracks_idle : Tracks [] (idle : Scope σ) where
  lists := rfl
  pending_eq_none := ⟨fun _ => rfl, fun _ => rfl⟩
  isOpen_iff := ⟨nofun, nofun⟩

theorem Tracks.holdsStyles_iff (h : Tracks log s) :
    s.holdsStyles = true ↔ ScopeCall.current log ≠ [] := by
  have hlists := h.lists
  have hmembers : s.holdsStyles = true ↔ (s.pending.getD ∅).toList ≠ [] := by
    rw [Scope.holdsStyles_iff]
    cases s.pending <;> simp
  rw [hmembers, hlists]
  refine ⟨fun hne hnil => ?_, eraseDups_ne_nil⟩
  rw [hnil] at hne
  exact hne rfl

/-- Closing the element gives the styles that were added since they were last taken away. -/
theorem Tracks.commit (h : Tracks log s) : s.commit.1.map OrderedSet.toList =
    if ScopeCall.current log = [] then none else some (ScopeCall.current log).eraseDups := by
  unfold Scope.commit
  by_cases hs : s.holdsStyles = true
  · obtain ⟨set, hset, -⟩ := Scope.holdsStyles_iff.1 hs
    rw [if_pos hs, if_neg (h.holdsStyles_iff.1 hs), ← h.lists, hset]
    rfl
  · have hnil : ScopeCall.current log = [] := by
      by_contra hne
      exact hs (h.holdsStyles_iff.2 hne)
    rw [if_neg hs, if_pos hnil]
    rfl

/-- No call fails but a start while styles are pending. -/
theorem call_eq_error_iff {e : ProtocolError} : s.call c = .error e ↔
    c = .start ∧ s.holdsStyles = true ∧ e = .uncommittedStyles := by
  cases c with
  | start =>
    show s.start.map _ = _ ↔ _
    unfold start
    cases s.holdsStyles <;> simp [Except.map, eq_comm]
  | add x => simp [call]
  | commit => simp [call]
  | clearPending => simp [call]

theorem Tracks.call (h : Tracks log s) {value : Option (OrderedSet σ)}
    (hc : s.call c = .ok (value, s')) : Tracks (log ++ [c]) s' := by
  cases c with
  | start =>
    change s.start.map _ = _ at hc
    unfold Scope.start at hc
    split at hc
    · cases hc
    · cases hc
      exact ⟨by simp, by simp, by simp⟩
  | add x =>
    cases hc
    refine ⟨?_, by simp [add], by simp [add]⟩
    rw [ScopeCall.current_concat]
    exact OrderedSet.toList_insert_of_eq h.lists x
  | commit =>
    cases hc
    exact ⟨by simp [idle], by simp [idle], by simp [idle]⟩
  | clearPending =>
    cases hc
    -- The set stays, if there is one, so only its members are gone.
    refine ⟨?_, ?_, ?_⟩
    · cases hp : s.pending <;> simp [clearPending, hp]
    · simpa [clearPending] using h.pending_eq_none
    · simpa [clearPending] using h.isOpen_iff

end Scope

/-! ## Scopes with a set in a memory -/

namespace StoredScope

variable {κ σ : Type}

section Identity

variable [DecidableEq κ] (ident : σ → κ)

/-- The calls that do not fail. -/
def performed (st : StoredScope κ σ) : List (ScopeCall σ) → List (ScopeCall σ)
  | [] => []
  | c :: calls =>
    match st.exec ident c with
    | .ok _ st' => c :: performed st' calls
    | .error _ st' => performed st' calls

end Identity

/-! ## What each call does -/

section Calls

variable [DecidableEq κ] {ident : σ → κ} {st : StoredScope κ σ}

theorem exec_start : st.exec ident .start =
    if st.holdsStyles then .error .uncommittedStyles st else .ok none ⟨st.memory, true, none⟩ := by
  cases h : st.holdsStyles <;> simp [-bind_pure_comp, exec, call, start, h]

theorem exec_add_of_some {r : SetRef} (h : st.pending = some r) (x : σ) : st.exec ident (.add x) =
    .ok none ⟨(st.memory.insert ident r x).2, true, some r⟩ := by
  simp [-bind_pure_comp, exec, call, add, pendingSet, h]

theorem exec_add_of_none (h : st.pending = none) (x : σ) :
    let made := st.memory.make ident .growing []
    st.exec ident (.add x) = .ok none ⟨(made.2.insert ident made.1 x).2, true, some made.1⟩ := by
  simp [-bind_pure_comp, exec, call, add, pendingSet, h]

theorem exec_commit_of_not_holds (h : st.holdsStyles = false) :
    st.exec ident .commit = .ok none ⟨st.memory, false, none⟩ := by
  cases hp : st.pending with
  | none => simp [-bind_pure_comp, exec, call, commit, hp]
  | some r =>
    have hempty : st.memory.items r = [] := by simpa [holdsStyles, hp] using h
    simp [-bind_pure_comp, exec, call, commit, hp, hempty]

theorem exec_commit_of_holds {r : SetRef} (hp : st.pending = some r) (h : st.holdsStyles = true) :
    let made := st.memory.freeze ident r
    st.exec ident .commit = .ok (some made.1) ⟨made.2, false, none⟩ := by
  have hitems : st.memory.items r ≠ [] := by simpa [holdsStyles, hp] using h
  simp [-bind_pure_comp, exec, call, commit, hp, hitems]

theorem exec_clearPending_of_some {r : SetRef} (h : st.pending = some r) :
    st.exec ident .clearPending = .ok none ⟨st.memory.clear r, st.isOpen, some r⟩ := by
  simp [-bind_pure_comp, exec, call, clearPending, h]

theorem exec_clearPending_of_none (h : st.pending = none) :
    st.exec ident .clearPending = .ok none ⟨st.memory, st.isOpen, none⟩ := by
  obtain ⟨m, o, p⟩ := st
  cases h
  rfl

end Calls

/-! ## One effect on both sides -/

section Shows

variable {ident : σ → κ} {st st' : StoredScope κ σ} {s s' : Scope σ} {n : Nat}

/-- A scope shows one that has values. The set that is pending lists the pending styles. -/
structure Shows (ident : σ → κ) (st : StoredScope κ σ) (s : Scope σ) : Prop where
  isOpen : st.isOpen = s.isOpen
  pending : Option.Rel (fun r set => r.kind = .growing ∧ SetMemory.Lists ident st.memory r set)
    st.pending s.pending

/-- There is a table of this number, and it is not that of the pending set. -/
structure Apart (st : StoredScope κ σ) (n : Nat) : Prop where
  lt : n < st.memory.tables.length
  ne : ∀ r, st.pending = some r → r.table ≠ n

/-- What a call does that does not fail: the snapshot lists the same styles on both sides and has a
table that is apart, and whatever table was apart before is so still, and has not changed. -/
structure Performs (ident : σ → κ) (st st' : StoredScope κ σ) (reply : Option SetRef)
    (value : Option (OrderedSet σ)) (s' : Scope σ) : Prop where
  shows : Shows ident st' s'
  reply : Option.Rel (fun f set => f.kind = .frozen ∧ SetMemory.Lists ident st'.memory f set ∧
    st'.Apart f.table) reply value
  kept : ∀ n, st.Apart n → st'.Apart n ∧ st'.memory.tables[n]? = st.memory.tables[n]?

theorem shows_fresh (m : SetMemory κ σ) : Shows ident (fresh m) Scope.idle := ⟨rfl, .none⟩

theorem Shows.pending_eq_none_iff (h : Shows ident st s) : st.pending = none ↔ s.pending = none := by
  obtain ⟨m, o, p⟩ := st
  obtain ⟨o', p'⟩ := s
  cases h.pending <;> simp

theorem Shows.lists (h : Shows ident st s) {r : SetRef} (hr : st.pending = some r) :
    ∃ set, s.pending = some set ∧ r.kind = .growing ∧ SetMemory.Lists ident st.memory r set := by
  have hp := h.pending
  rw [hr] at hp
  generalize s.pending = p at hp
  cases hp with
  | some hlists => exact ⟨_, rfl, hlists⟩

theorem Shows.holdsStyles_eq (h : Shows ident st s) : st.holdsStyles = s.holdsStyles := by
  unfold holdsStyles Scope.holdsStyles
  cases hr : st.pending with
  | none => rw [h.pending_eq_none_iff.1 hr]
  | some r =>
    obtain ⟨set, hset, -, hlists⟩ := h.lists hr
    rw [hset]
    show (!(st.memory.items r).isEmpty) = !set.isEmpty
    rw [hlists.items_eq]
    rfl

/-- A snapshot lists the same styles on both sides. -/
theorem Performs.reply_items {reply : Option SetRef} {value : Option (OrderedSet σ)}
    (h : Performs ident st st' reply value s') :
    reply.map st'.memory.items = value.map OrderedSet.toList := by
  cases h.reply with
  | none => rfl
  | some hf => exact congrArg some hf.2.1.items_eq

theorem Performs.apart {f : SetRef} {reply : Option SetRef} {value : Option (OrderedSet σ)}
    (h : Performs ident st st' reply value s') (hf : reply = some f) :
    f.kind = .frozen ∧ st'.Apart f.table := by
  subst hf
  cases h.reply with
  | some hf => exact ⟨hf.1, hf.2.2⟩

/-- The pending set changes where it is, or is a new one. -/
theorem performs_of_changes {m : SetMemory κ σ} {r : SetRef} {set : OrderedSet σ}
    (hm : SetMemory.Changes ident st.memory m r set) (hkind : r.kind = .growing)
    (hr : st.pending = some r ∨ r.table = st.memory.tables.length) (isOpen : Bool) :
    Performs ident st ⟨m, isOpen, some r⟩ none none ⟨isOpen, some set⟩ where
  shows := ⟨rfl, .some ⟨hkind, hm.lists⟩⟩
  reply := .none
  kept n hn := by
    -- A table that is apart is there already, and not that of the pending set.
    have hne : r.table ≠ n := by
      rcases hr with hr | hr
      · exact hn.ne r hr
      · have hlt := hn.lt
        omega
    refine ⟨⟨hn.lt.trans_le hm.length_le, fun r' hr' => ?_⟩, hm.kept n hne.symm hn.lt⟩
    cases hr'
    exact hne

theorem performs_letGo (isOpen : Bool) :
    Performs ident st ⟨st.memory, isOpen, none⟩ none none ⟨isOpen, none⟩ where
  shows := ⟨rfl, .none⟩
  reply := .none
  kept _ hn := ⟨⟨hn.lt, nofun⟩, rfl⟩

theorem performs_snapshot {m : SetMemory κ σ} {set : OrderedSet σ}
    (hm : SetMemory.Changes ident st.memory m ⟨.frozen, st.memory.tables.length⟩ set) :
    Performs ident st ⟨m, false, none⟩ (some ⟨.frozen, st.memory.tables.length⟩) (some set)
      Scope.idle where
  shows := ⟨rfl, .none⟩
  reply := .some ⟨rfl, hm.lists, hm.lists.lt, nofun⟩
  kept n hn := ⟨⟨hn.lt.trans_le hm.length_le, nofun⟩, hm.kept n hn.lt.ne hn.lt⟩

end Shows

/-! ## Steps -/

section Steps

variable [DecidableEq κ] {ident : σ → κ} {st : StoredScope κ σ} {s : Scope σ}

/-- A call leads to a snapshot or to none, with one effect on both sides. -/
def Goes (ident : σ → κ) (st : StoredScope κ σ) (c : ScopeCall σ)
    (value : Option (OrderedSet σ)) (s' : Scope σ) : Prop :=
  ∃ reply st', st.exec ident c = .ok reply st' ∧ Performs ident st st' reply value s'

theorem goes_start (h : st.holdsStyles = false) : st.Goes ident .start none ⟨true, none⟩ := by
  refine ⟨none, _, ?_, performs_letGo true⟩
  rw [exec_start, h]
  rfl

theorem Shows.goes_clearPending (h : Shows ident st s) :
    st.Goes ident .clearPending none s.clearPending := by
  unfold Scope.clearPending
  rw [← h.isOpen]
  cases hr : st.pending with
  | none =>
    rw [h.pending_eq_none_iff.1 hr]
    exact ⟨none, _, exec_clearPending_of_none hr, performs_letGo st.isOpen⟩
  | some r =>
    obtain ⟨set, hset, hkind, hlists⟩ := h.lists hr
    rw [hset]
    exact ⟨none, _, exec_clearPending_of_some hr,
      performs_of_changes (SetMemory.changes_clear hlists) hkind (.inl hr) st.isOpen⟩

variable [DecidableEq σ] (hident : Function.Injective ident)

include hident

theorem Shows.goes_add (h : Shows ident st s) (x : σ) : st.Goes ident (.add x) none (s.add x) := by
  unfold Scope.add
  cases hr : st.pending with
  | none =>
    rw [h.pending_eq_none_iff.1 hr]
    have hmade := SetMemory.changes_make hident st.memory .growing []
    have hm := hmade.trans (SetMemory.changes_insert hident hmade.lists x)
    exact ⟨none, _, exec_add_of_none hr x, performs_of_changes hm rfl (.inr rfl) true⟩
  | some r =>
    obtain ⟨set, hset, hkind, hlists⟩ := h.lists hr
    have hm := SetMemory.changes_insert hident hlists x
    rw [hset]
    exact ⟨none, _, exec_add_of_some hr x, performs_of_changes hm hkind (.inl hr) true⟩

theorem Shows.goes_commit (h : Shows ident st s) :
    st.Goes ident .commit s.commit.1 s.commit.2 := by
  unfold Scope.commit
  rw [← h.holdsStyles_eq]
  cases hs : st.holdsStyles with
  | false => exact ⟨none, _, exec_commit_of_not_holds hs, performs_letGo false⟩
  | true =>
    cases hr : st.pending with
    | none => simp [holdsStyles, hr] at hs
    | some r =>
      obtain ⟨set, hset, -, hlists⟩ := h.lists hr
      rw [hset]
      exact ⟨_, _, exec_commit_of_holds hr hs,
        performs_snapshot (SetMemory.changes_freeze hident hlists)⟩

/-- A call fails on both sides, and then changes nothing, or it goes on both sides. -/
theorem Shows.exec (h : Shows ident st s) (c : ScopeCall σ) :
    (∃ e, s.call c = .error e ∧ st.exec ident c = .error e st) ∨
    ∃ value s', s.call c = .ok (value, s') ∧ st.Goes ident c value s' := by
  cases c with
  | start =>
    unfold Scope.call Scope.start
    rw [← h.holdsStyles_eq]
    cases hs : st.holdsStyles with
    | true =>
      refine .inl ⟨.uncommittedStyles, rfl, ?_⟩
      rw [exec_start, hs]
      rfl
    | false => exact .inr ⟨_, _, rfl, goes_start hs⟩
  | add x => exact .inr ⟨_, _, rfl, h.goes_add hident x⟩
  | commit => exact .inr ⟨_, _, rfl, h.goes_commit hident⟩
  | clearPending => exact .inr ⟨_, _, rfl, h.goes_clearPending⟩

/-! ## Runs -/

/-- Calls have one effect on both sides, and those that did not fail tell what it is. -/
theorem Shows.after (h : Shows ident st s) {log : List (ScopeCall σ)} (ht : s.Tracks log)
    (calls : List (ScopeCall σ)) : Shows ident (st.after ident calls) (s.run calls) ∧
      (s.run calls).Tracks (log ++ st.performed ident calls) := by
  induction calls generalizing st s log with
  | nil =>
    refine ⟨h, ?_⟩
    rw [performed, List.append_nil]
    exact ht
  | cons c calls ih =>
    show Shows ident ((st.next ident c).after ident calls) ((s.next c).run calls) ∧
      ((s.next c).run calls).Tracks _
    unfold StoredScope.next Scope.next
    rcases h.exec hident c with ⟨e, hs, hst⟩ | ⟨value, s', hs, reply, st', hst, hp⟩
    · -- A call that fails is left out of the log, and leaves both sides as they are.
      rw [performed, hs, hst]
      exact ih h ht
    · rw [performed, hs, hst, List.append_cons]
      exact ih hp.shows (ht.call hs)

/-- A table that is apart from the scope stays as it is. -/
theorem Apart.after {n : Nat} (ha : st.Apart n) (h : Shows ident st s)
    (calls : List (ScopeCall σ)) :
    (st.after ident calls).memory.tables[n]? = st.memory.tables[n]? := by
  induction calls generalizing st s with
  | nil => rfl
  | cons c calls ih =>
    show ((st.next ident c).after ident calls).memory.tables[n]? = _
    unfold StoredScope.next
    rcases h.exec hident c with ⟨e, -, hst⟩ | ⟨value, s', -, reply, st', hst, hp⟩
    · rw [hst]
      exact ih ha h
    · rw [hst]
      obtain ⟨ha', htable⟩ := hp.kept n ha
      exact (ih ha' hp.shows).trans htable

/-- **Calls on an element in any order.** Whatever calls were made, those that failed left out, the
next start fails exactly if a style was added since the last call that took the pending ones away,
and then it changes nothing; no other call fails. Closing the element gives a snapshot of these
styles, each once and in order of first addition, if there are any, and leaves the scope idle; the
snapshot stays as it is whatever follows. There is a pending set exactly if a style was added to the
element, and it lists what was added since it was cleared. The scope is open exactly if the last
call that opens or closes it was no closing. -/
theorem calls_outcome (m : SetMemory κ σ) (calls : List (ScopeCall σ)) :
    let st := (fresh m).after ident calls
    let s := Scope.idle.run calls
    let log := (fresh m).performed ident calls
    let current := ScopeCall.current log
    Shows ident st s ∧
    (current ≠ [] → s.call .start = .error .uncommittedStyles ∧
      st.exec ident .start = .error .uncommittedStyles st) ∧
    (∀ c, (c = .start → current = []) →
      ∃ value s', s.call c = .ok (value, s') ∧ st.Goes ident c value s') ∧
    (∃ reply st', st.exec ident .commit = .ok reply st' ∧ st'.isOpen = false ∧ st'.pending = none ∧
      reply.map st'.memory.items = (if current = [] then none else some current.eraseDups) ∧
      reply.map st'.memory.items = s.commit.1.map OrderedSet.toList ∧
      ∀ f, reply = some f → f.kind = .frozen ∧
        ∀ more, (st'.after ident more).memory.items f = st'.memory.items f) ∧
    (st.pending = none ↔ ScopeCall.ofElement log = []) ∧
    (∀ r, st.pending = some r → r.kind = .growing ∧ st.memory.items r = current.eraseDups) ∧
    (st.isOpen = true ↔ ∃ c, ScopeCall.last? log = some c ∧ c ≠ .commit) := by
  intro st s log current
  obtain ⟨hshows, htracks⟩ : Shows ident st s ∧ s.Tracks ([] ++ log) :=
    (shows_fresh m).after hident Scope.tracks_idle calls
  rw [List.nil_append] at htracks
  refine ⟨hshows, fun hne => ?_, fun c hc => ?_, ?_, ?_, fun r hr => ?_, ?_⟩
  · have hholds := htracks.holdsStyles_iff.2 hne
    refine ⟨Scope.call_eq_error_iff.2 ⟨rfl, hholds, rfl⟩, ?_⟩
    rw [exec_start, hshows.holdsStyles_eq, if_pos hholds]
  · rcases hshows.exec hident c with ⟨e, hs, -⟩ | hgoes
    · obtain ⟨hstart, hholds, -⟩ := Scope.call_eq_error_iff.1 hs
      exact absurd (hc hstart) (htracks.holdsStyles_iff.1 hholds)
    · exact hgoes
  · obtain ⟨reply, st', hcommit, hp⟩ := hshows.goes_commit hident
    have hsame : reply.map st'.memory.items = s.commit.1.map OrderedSet.toList := hp.reply_items
    refine ⟨reply, st', hcommit, hp.shows.isOpen, hp.shows.pending_eq_none_iff.2 rfl,
      hsame.trans htracks.commit, hsame, fun f hf => ?_⟩
    obtain ⟨hkind, hapart⟩ := hp.apart hf
    exact ⟨hkind, fun more => SetMemory.items_congr (hapart.after hident hp.shows more)⟩
  · rw [hshows.pending_eq_none_iff, htracks.pending_eq_none]
  · obtain ⟨set, hset, hkind, hlists⟩ := hshows.lists hr
    refine ⟨hkind, ?_⟩
    rw [hlists.items_eq, ← htracks.lists, hset]
    rfl
  · rw [hshows.isOpen, htracks.isOpen_iff]

end Steps

/-- A style that was cleared stops no start, styles that are pending do. The snapshot of the element
stays as it is while the next one is left open on a set without members. -/
theorem calls_outcome_cleared :
    let calls : List (ScopeCall Nat) :=
      [.add 7, .clearPending, .start, .add 7, .add 8, .add 7, .start]
    let st : StoredScope Nat Nat := (fresh ⟨[]⟩).after id calls
    (fresh ⟨[]⟩).performed id calls = calls.dropLast ∧
      st.exec id .start = .error .uncommittedStyles st ∧
      ∃ f st', st.exec id .commit = .ok (some f) st' ∧ st'.memory.items f = [7, 8] ∧
        let later := st'.after id [.add 9, .clearPending]
        (later.isOpen, later.pending.map later.memory.items, later.memory.items f) =
          (true, some [], [7, 8]) := by
  intro calls st
  have hlog : (fresh ⟨[]⟩ : StoredScope Nat Nat).performed id calls = calls.dropLast := by decide
  obtain ⟨-, hstart, -, hcommit, -⟩ :=
    calls_outcome Function.injective_id (⟨[]⟩ : SetMemory Nat Nat) calls
  rw [hlog] at hstart hcommit
  have hne : ScopeCall.current calls.dropLast ≠ [] := by decide
  obtain ⟨reply, st', hcommit, -, -, hitems, -, hstays⟩ := hcommit
  rw [if_neg hne] at hitems
  obtain ⟨f, hf, hfitems⟩ := Option.map_eq_some_iff.1 hitems
  subst hf
  have hlisted : st'.memory.items f = [7, 8] := hfitems
  refine ⟨hlog, (hstart hne).2, f, st', hcommit, hlisted, ?_⟩
  intro later
  have hlater : later.memory.items f = [7, 8] := ((hstays f rfl).2 _).trans hlisted
  rw [hlater]
  cases hcommit
  decide +kernel

end StoredScope

end StyleUsage
