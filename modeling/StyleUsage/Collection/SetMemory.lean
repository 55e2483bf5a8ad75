import StyleUsage.Collection.NamedSets

/-!
# Sets in a memory

A set is an object with a table of its own in a memory that all sets share, and in the table every
item stands under its identity. The operations on sets are given here by what they read and write
there. A store has sets under names, and takes the steps that named sets take.
-/

namespace StyleUsage

/-- A set as an object: whether it may change, and the number of its table. -/
structure SetRef where
  kind : SetKind
  table : Nat
  deriving DecidableEq, Repr

/-- The tables of all sets that were made. -/
structure SetMemory (κ α : Type) where
  tables : List (Entries κ α)
  deriving DecidableEq, Repr

namespace SetMemory

variable {κ α : Type}

def table (m : SetMemory κ α) (r : SetRef) : Entries κ α := m.tables[r.table]?.getD []

/-- Give a set another table. -/
def write (m : SetMemory κ α) (r : SetRef) (t : Entries κ α) : SetMemory κ α :=
  ⟨m.tables.set r.table t⟩

/-- The items of a set, one after another. -/
def items (m : SetMemory κ α) (r : SetRef) : List α := (m.table r).values

/-- Take all items out of a set. -/
def clear (m : SetMemory κ α) (r : SetRef) : SetMemory κ α := m.write r []

section Operations

variable [DecidableEq κ] (ident : α → κ) (m : SetMemory κ α) (r : SetRef)

def has (x : α) : Bool := (m.table r).has (ident x)

/-- Whether every item is in a set. -/
def containsAll (xs : List α) : Bool := xs.all fun x => m.has ident r x

/-- Insert an item into a set, and tell whether it was new. -/
def insert (x : α) : Bool × SetMemory κ α :=
  if m.has ident r x then (false, m) else (true, m.write r ((m.table r).put (ident x) x))

/-- Insert several items, one after another. -/
def insertAll (xs : List α) : SetMemory κ α := xs.foldl (fun m x => (m.insert ident r x).2) m

/-- Make a set of items, with a table of its own. -/
def make (kind : SetKind) (xs : List α) : SetRef × SetMemory κ α :=
  (⟨kind, m.tables.length⟩, insertAll ident ⟨m.tables ++ [[]]⟩ ⟨kind, m.tables.length⟩ xs)

/-- A growing set of the items of several sets. Each of them is read when its turn comes. -/
def unite (others : List SetRef) : SetRef × SetMemory κ α :=
  let made := m.make ident .growing (m.items r)
  (made.1, others.foldl (fun m o => m.insertAll ident made.1 (m.items o)) made.2)

/-- A set that cannot change, of the items of a set. -/
def freeze : SetRef × SetMemory κ α := m.make ident .frozen (m.items r)

end Operations

end SetMemory

/-! ## Sets under names -/

/-- Why a step cannot be taken. -/
inductive SetFault where
  | unknown (name : String)
  | frozen (name : String)
  deriving DecidableEq, Repr

/-- Sets under names, and the memory where their tables are. -/
structure SetStore (κ α : Type) where
  memory : SetMemory κ α
  names : Entries String SetRef
  deriving DecidableEq, Repr

namespace SetStore

variable {κ α : Type}

def empty : SetStore κ α := ⟨⟨[]⟩, []⟩

def find (st : SetStore κ α) (name : String) : Except SetFault SetRef :=
  match st.names.get? name with
  | some r => .ok r
  | none => .error (.unknown name)

/-- The set under a name, if it can change. -/
def growing (st : SetStore κ α) (name : String) : Except SetFault SetRef := do
  let r ← st.find name
  if r.kind = .growing then .ok r else .error (.frozen name)

def enter (st : SetStore κ α) (name : String) (made : SetRef × SetMemory κ α) : SetStore κ α :=
  ⟨made.2, st.names.put name made.1⟩

section Steps

variable [DecidableEq κ] (ident : α → κ)

def step (st : SetStore κ α) : SetStep α → Except SetFault (SetStore κ α)
  | .make kind name items => .ok (st.enter name (st.memory.make ident kind items))
  | .insert name item => do
    let r ← st.growing name
    .ok ⟨(st.memory.insert ident r item).2, st.names⟩
  | .insertAll name items => do
    let r ← st.growing name
    .ok ⟨st.memory.insertAll ident r items, st.names⟩
  | .insertFrom name source => do
    let r ← st.growing name
    let other ← st.find source
    .ok ⟨st.memory.insertAll ident r (st.memory.items other), st.names⟩
  | .clear name => do
    let r ← st.growing name
    .ok ⟨st.memory.clear r, st.names⟩
  | .unite name first others => do
    let r ← st.find first
    let rs ← others.mapM st.find
    .ok (st.enter name (st.memory.unite ident r rs))
  | .freeze name source => do
    let r ← st.find source
    .ok (st.enter name (st.memory.freeze ident r))

/-- Take steps one after another. -/
def run (st : SetStore κ α) (steps : List (SetStep α)) : Except SetFault (SetStore κ α) :=
  steps.foldlM (step ident) st

end Steps

end SetStore

end StyleUsage
