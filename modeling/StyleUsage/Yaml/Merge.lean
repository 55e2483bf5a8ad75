import StyleUsage.Yaml.Node

/-!
# Merge keys

A merge key brings the entries of one mapping or of several in front of those of its own mapping; of
several mappings the entries of the last come first. A mapping that is merged into itself, directly
or on the way through others, brings no more than its own entries. A merge key that brings no
mapping stays where it is.
-/

namespace StyleUsage.Yaml.Node

mutual

/-- The number of nodes in a tree. -/
def count : Node → Nat
  | .scalar .. | .enclosing .. => 1
  | .sequence _ _ items => countList items + 1
  | .mapping _ _ entries => countEntries entries + 1
termination_by structural n => n

/-- The number of nodes in the items of a sequence. -/
def countList : List Node → Nat
  | [] => 0
  | n :: rest => n.count + countList rest
termination_by structural ns => ns

/-- The number of nodes in the entries of a mapping. -/
def countEntries : List (Node × Node) → Nat
  | [] => 0
  | (k, v) :: rest => k.count + v.count + countEntries rest
termination_by structural es => es

end

/-- The node that stands at a place; `around` are the collections around it. -/
def standing (around : Entries Nat Node) (n : Node) : Node :=
  match n with
  | .enclosing label _ => (Entries.get? around label).getD n
  | n => n

def ownEntries (entries : List (Node × Node)) : List (Node × Node) :=
  entries.filter fun e => e.1.tag != .merge

/-- The entries that a merge key brings, by its value: those of a mapping, with what its own merge
keys bring in front of them, or those of several. The mappings on the way are `seen`. Each step goes
to a mapping that was not seen, so as many steps as there are mappings are enough. -/
def brought (around : Entries Nat Node) :
    (steps : Nat) → (seen : List Nat) → Node → Option (List (Node × Node))
  | 0, _, _ => some []
  | steps + 1, seen, n =>
    let n := n.standing around
    match n with
    | .mapping label _ entries =>
      if seen.contains label then some (ownEntries entries)
      else
        let entries := if Entries.has around label then entries else fillEntries label n entries
        let merged := entries.map fun (k, v) =>
          if k.tag == .merge then (brought around steps (label :: seen) v).getD [(k, v)] else []
        some (merged.flatten ++ ownEntries entries)
    | .sequence label _ items =>
      let items := if Entries.has around label then items else fillList label n items
      let parts := items.map fun item =>
        match item.standing around with
        | .mapping .. => brought around steps seen item
        | _ => none
      (parts.mapM id).map fun parts => parts.reverse.flatten
    | _ => none

def holdsPairs (tag : Tag) : Bool := tag == .omap || tag == .pairs

/-- Replace merge keys by what they bring. In a mapping that stands for a pair or for a scalar,
which `merging` and its tag tell, they stay. A node inside itself becomes a place with its label; so
the labels around a node are all different, and as many steps as there are nodes are enough. -/
def unmerged (limit : Nat) : (steps : Nat) → Entries Nat Node → (merging : Bool) → Node → Node
  | 0, _, _, n => n
  | steps + 1, around, merging, n =>
    match n with
    | .scalar .. | .enclosing .. => n
    | .sequence label tag items =>
      if Entries.has around label then .enclosing label false
      else
        let around := (label, n) :: around
        .sequence label tag (items.map (unmerged limit steps around (!holdsPairs tag)))
    | .mapping label tag entries =>
      if Entries.has around label then .enclosing label true
      else
        let around := (label, n) :: around
        let entries :=
          if merging && (tag == .map || tag == .set) then (brought around limit [] n).getD entries
          else entries
        let inside := unmerged limit steps around true
        .mapping label tag (entries.map fun (k, v) => (inside k, inside v))

/-- The tree of a document with all merge keys replaced. -/
def withoutMerges (n : Node) : Node := unmerged (n.count + 1) (n.count + 1) [] true n

end StyleUsage.Yaml.Node
