import StyleUsage.Collection.Entries
import StyleUsage.Collection.OrderedSet

/-!
# Sets under names

Several sets live side by side under names. A growing set takes further members, a frozen one is
a snapshot that stays as it is. Sets are values: what happens to one of them changes no other.
-/

namespace StyleUsage

/-- Whether a set may change. -/
inductive SetKind where
  | growing
  | frozen
  deriving DecidableEq, Repr, Inhabited

/-- A set and whether it may change. -/
structure NamedSet (α : Type) where
  kind : SetKind
  members : OrderedSet α
  deriving Inhabited

/-- A change to the sets. -/
inductive SetStep (α : Type) where
  | make (kind : SetKind) (name : String) (items : List α)
  | insert (name : String) (item : α)
  | insertAll (name : String) (items : List α)
  /-- Insert the members of another set, or of the set itself. -/
  | insertFrom (name source : String)
  | clear (name : String)
  /-- A growing set of the members of several sets. -/
  | unite (name first : String) (others : List String)
  | freeze (name source : String)
  deriving Repr

abbrev NamedSets (α : Type) := Entries String (NamedSet α)

namespace NamedSets

variable {α : Type} [DecidableEq α]

/-- The members of a set; a name without a set has none. -/
def members (s : NamedSets α) (name : String) : OrderedSet α :=
  match s.get? name with
  | some set => set.members
  | none => ∅

def kind (s : NamedSets α) (name : String) : SetKind :=
  match s.get? name with
  | some set => set.kind
  | none => .growing

def withMembers (s : NamedSets α) (name : String) (members : OrderedSet α) : NamedSets α :=
  s.put name ⟨s.kind name, members⟩

def apply (s : NamedSets α) : SetStep α → NamedSets α
  | .make kind name items => s.put name ⟨kind, OrderedSet.ofList items⟩
  | .insert name item => s.withMembers name ((s.members name).insert item)
  | .insertAll name items => s.withMembers name ((s.members name).insertAll items)
  | .insertFrom name source =>
    s.withMembers name ((s.members name).insertAll (s.members source).toList)
  | .clear name => s.withMembers name ∅
  | .unite name first others =>
    s.put name ⟨.growing, (s.members first).union (others.map s.members)⟩
  | .freeze name source => s.put name ⟨.frozen, s.members source⟩

end NamedSets

end StyleUsage
