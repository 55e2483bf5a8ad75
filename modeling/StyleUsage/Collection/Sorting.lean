/-!
# Sorting by a comparison that may fail

Some values are in no order, and then a list of them is not sorted. The first items are taken as
far as they ascend, or else descend, and each further item is put behind all items that are not
greater; so equal items keep their order. The result is that of every stable way of sorting, and of
several pairs without an order the one that this way meets first is reported.
-/

namespace StyleUsage.Sorting

variable {α ε : Type}

/-- The items that go on from `last` in one direction, and the rest. -/
def run (less : α → α → Except ε Bool) (descending : Bool) (last : α) :
    List α → Except ε (List α × List α)
  | [] => .ok ([], [])
  | x :: rest => do
    if (← less x last) = descending then
      let (more, left) ← run less descending x rest
      .ok (x :: more, left)
    else .ok ([], x :: rest)

/-- The place of an item in a sorted array, between two places, behind all items that are not
greater. -/
def placeOf (less : α → α → Except ε Bool) (x : α) (sorted : Array α) (low high : Nat) :
    Except ε Nat :=
  if low < high then
    let middle := low + (high - low) / 2
    match sorted[middle]? with
    | none => .ok low
    | some y => do
      if ← less x y then placeOf less x sorted low middle
      else placeOf less x sorted (middle + 1) high
  else .ok low
termination_by high - low

def insert (less : α → α → Except ε Bool) (sorted : List α) (x : α) : Except ε (List α) := do
  let place ← placeOf less x sorted.toArray 0 sorted.length
  .ok (sorted.take place ++ x :: sorted.drop place)

def sort (less : α → α → Except ε Bool) (xs : List α) : Except ε (List α) := do
  match xs with
  | first :: second :: rest =>
    let descending ← less second first
    let (more, left) ← run less descending second rest
    let start := first :: second :: more
    left.foldlM (insert less) (if descending then start.reverse else start)
  | short => .ok short

end StyleUsage.Sorting
