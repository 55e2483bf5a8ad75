import StyleUsage.Analysis.Scope
import StyleUsage.Collection.SetMemory

/-!
# A scope with its set in a memory

The calls on the element being walked, once on a scope with values, and once on one that has the set
of its pending styles in the memory of all sets. There each call is made part by part, and what it
changed before it fails stays changed.
-/

namespace StyleUsage

/-- A call on the element being walked. -/
inductive ScopeCall (σ : Type) where
  | start
  | add (style : σ)
  | commit
  | clearPending
  deriving DecidableEq, Repr

namespace Scope

variable {σ : Type} [DecidableEq σ]

/-- Make a call: the snapshot that it gives, and the scope after it. -/
def call (s : Scope σ) : ScopeCall σ → Except ProtocolError (Option (OrderedSet σ) × Scope σ)
  | .start => s.start.map fun s' => (none, s')
  | .add x => .ok (none, s.add x)
  | .commit => .ok s.commit
  | .clearPending => .ok (none, s.clearPending)

/-- The scope after a call. It stays as it is if the call fails. -/
def next (s : Scope σ) (c : ScopeCall σ) : Scope σ :=
  match s.call c with
  | .ok (_, s') => s'
  | .error _ => s

/-- The scope after calls that are made one after another. -/
def run (s : Scope σ) (calls : List (ScopeCall σ)) : Scope σ := calls.foldl next s

end Scope

/-- The element being walked, with its pending styles in a set as an object. -/
structure StoredScope (κ σ : Type) where
  memory : SetMemory κ σ
  isOpen : Bool
  pending : Option SetRef
  deriving DecidableEq, Repr

/-- A part of a call. What it changed before it fails stays changed. -/
abbrev ScopeRun (κ σ : Type) := EStateM ProtocolError (StoredScope κ σ)

namespace StoredScope

variable {κ σ : Type}

/-- The scope before the first element, beside the sets that there are. -/
def fresh (m : SetMemory κ σ) : StoredScope κ σ := ⟨m, false, none⟩

/-- Whether some style is pending. -/
def holdsStyles (st : StoredScope κ σ) : Bool :=
  match st.pending with
  | some r => !(st.memory.items r).isEmpty
  | none => false

/-- Begin an element. -/
def start : ScopeRun κ σ Unit := do
  if (← get).holdsStyles then throw .uncommittedStyles
  modify fun st => { st with pending := none }
  modify fun st => { st with isOpen := true }

def clearPending : ScopeRun κ σ Unit := do
  if let some r := (← get).pending then
    modify fun st => { st with memory := st.memory.clear r }

section Identity

variable [DecidableEq κ] (ident : σ → κ)

/-- The set of pending styles, made if there is none yet. -/
def pendingSet : ScopeRun κ σ SetRef := do
  match (← get).pending with
  | some r => pure r
  | none =>
    let made := (← get).memory.make ident .growing []
    modify fun st => { st with memory := made.2, pending := some made.1 }
    pure made.1

/-- Add a style to the element. -/
def add (x : σ) : ScopeRun κ σ Unit := do
  let r ← pendingSet ident
  modify fun st => { st with memory := (st.memory.insert ident r x).2 }
  modify fun st => { st with isOpen := true }

/-- Close the element. The snapshot is made of the set that was pending. -/
def commit : ScopeRun κ σ (Option SetRef) := do
  let st ← get
  modify fun st => { st with pending := none }
  modify fun st => { st with isOpen := false }
  match st.pending with
  | none => pure none
  | some r =>
    if ((← get).memory.items r).isEmpty then pure none
    else
      let made := (← get).memory.freeze ident r
      modify fun st => { st with memory := made.2 }
      pure (some made.1)

/-- Make a call: the snapshot that it gives. -/
def call : ScopeCall σ → ScopeRun κ σ (Option SetRef)
  | .start => do start; pure none
  | .add x => do add ident x; pure none
  | .commit => commit ident
  | .clearPending => do clearPending; pure none

def exec (st : StoredScope κ σ) (c : ScopeCall σ) :
    EStateM.Result ProtocolError (StoredScope κ σ) (Option SetRef) := (call ident c).run st

/-- The scope after a call, whether it fails or not. -/
def next (st : StoredScope κ σ) (c : ScopeCall σ) : StoredScope κ σ :=
  match st.exec ident c with
  | .ok _ st' | .error _ st' => st'

def after (st : StoredScope κ σ) (calls : List (ScopeCall σ)) : StoredScope κ σ :=
  calls.foldl (next ident) st

end Identity

end StoredScope

end StyleUsage
