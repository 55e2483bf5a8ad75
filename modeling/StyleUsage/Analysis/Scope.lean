import StyleUsage.Collection.OrderedSet

/-!
# The element being walked

A scope is idle, or open on one element. The styles seen on the open element are pending until
the element is closed; closing it gives them as a correlation, if there are any. There is no set
of pending styles before the first one is added. A style that is added while the scope is idle
opens it.
-/

namespace StyleUsage

/-- What a walker may do wrong. -/
inductive ProtocolError where
  /-- An element was started while the one before still holds styles. -/
  | uncommittedStyles
  /-- A style was marked as dynamic before it was added. -/
  | notYetAdded
  deriving DecidableEq, Repr

/-- The wording of a breach. -/
def ProtocolError.message : ProtocolError → String
  | .uncommittedStyles => "end_element() wasn't called after a previous call to start_element()"
  | .notYetAdded => "Cannot mark style that hasn't yet been added as dynamic."

/-- The element being walked, and its pending styles. -/
structure Scope (σ : Type) where
  isOpen : Bool
  pending : Option (OrderedSet σ)
  deriving Inhabited

namespace Scope

variable {σ : Type}

/-- The scope before the first element. -/
def idle : Scope σ := ⟨false, none⟩

/-- Whether some style is pending. -/
def holdsStyles (s : Scope σ) : Bool :=
  match s.pending with
  | some set => !set.isEmpty
  | none => false

/-- Begin an element. This fails if the element before still holds styles. -/
def start (s : Scope σ) : Except ProtocolError (Scope σ) :=
  if s.holdsStyles then .error .uncommittedStyles else .ok ⟨true, none⟩

def add [DecidableEq σ] (s : Scope σ) (style : σ) : Scope σ :=
  ⟨true, some ((s.pending.getD ∅).insert style)⟩

/-- Close the element: the pending styles, if there are any, and an idle scope. -/
def commit (s : Scope σ) : Option (OrderedSet σ) × Scope σ :=
  (if s.holdsStyles then s.pending else none, idle)

/-- Take all members out of the set of pending styles. The set itself stays. -/
def clearPending (s : Scope σ) : Scope σ :=
  ⟨s.isOpen, s.pending.map fun _ => ∅⟩

end Scope

end StyleUsage
