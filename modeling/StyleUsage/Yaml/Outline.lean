import StyleUsage.Datum.Writing
import StyleUsage.Decimal.Shortest
import StyleUsage.Yaml.Binary
import StyleUsage.Yaml.Resolve

/-!
# What is written of a value

A YAML document has scalars, sequences and mappings only, and every scalar is a text with a tag. A
value that stands in several places, or inside itself, is written at the first of them with an
anchor, and an alias stands at the others. Anchors are numbered in the order in which the second
places are met.
-/

namespace StyleUsage.Yaml

/-- A scalar as a text with a tag. -/
structure Scalar where
  tag : Tag
  text : String
  deriving DecidableEq, Repr, Inhabited

/-- A value in the form in which it is written. -/
inductive Outline where
  /-- The anchor of a value that is written elsewhere, which is a scalar or a collection. -/
  | reference (anchor : Nat) (isScalar : Bool)
  | scalar (anchor : Option Nat) (s : Scalar)
  | sequence (anchor : Option Nat) (items : List Outline)
  | mapping (anchor : Option Nat) (tag : Tag) (entries : List (Outline × Outline))
  deriving Inhabited

/-! ## The order of entries -/

/-- Entries in the order of their keys, if these are in an order. -/
def orderedEntries {α : Type} (entries : List (Datum × α)) : List (Datum × α) :=
  (Datum.sortEntries entries).toOption.getD entries

mutual

/-- The value with the entries of every mapping and the items of every set in order. -/
def ordered : Datum → Datum
  | .list label items => .list label (orderedItems items)
  | .pair a b => .pair (ordered a) (ordered b)
  | .map label entries => .map label (orderedEntries (orderedValues entries))
  | .set label items =>
    .set label ((orderedEntries (items.map fun d => (d, ()))).map Prod.fst)
  | .null => .null
  | .bool b => .bool b
  | .int i => .int i
  | .float x => .float x
  | .str s => .str s
  | .bytes content => .bytes content
  | .moment label m => .moment label m
  | .again label isMap => .again label isMap
termination_by structural d => d

def orderedItems : List Datum → List Datum
  | [] => []
  | d :: rest => ordered d :: orderedItems rest
termination_by structural ds => ds

def orderedValues : List (Datum × Datum) → List (Datum × Datum)
  | [] => []
  | (k, v) :: rest => (k, ordered v) :: orderedValues rest
termination_by structural es => es

end

/-! ## Anchors -/

/-- The labels that are met on the way through a value. -/
structure Meetings where
  met : List Nat
  /-- The labels that are met again, in the order of their second places. -/
  repeated : List Nat
  deriving Inhabited

def Meetings.meet (m : Meetings) (label : Option Nat) : Meetings :=
  { m with met := label.toList ++ m.met }

def Meetings.meetAgain (m : Meetings) (label : Option Nat) : Meetings :=
  { m with repeated := m.repeated ++ label.toList.filter fun l => !m.repeated.contains l }

mutual

def meetAll : Datum → Meetings → Meetings
  | .again label _, m => m.meetAgain (some label)
  | .moment label _, m => if Datum.isOneOf label m.met then m.meetAgain label else m.meet label
  | .set label items, m =>
    if Datum.isOneOf label m.met then m.meetAgain label else meetItems items (m.meet label)
  | .list label items, m =>
    if Datum.isOneOf label m.met then m.meetAgain label else meetItems items (m.meet label)
  | .map label entries, m =>
    if Datum.isOneOf label m.met then m.meetAgain label else meetEntries entries (m.meet label)
  | .pair a b, m => meetAll b (meetAll a m)
  | _, m => m
termination_by structural d => d

def meetItems : List Datum → Meetings → Meetings
  | [], m => m
  | d :: rest, m => meetItems rest (meetAll d m)
termination_by structural ds => ds

def meetEntries : List (Datum × Datum) → Meetings → Meetings
  | [], m => m
  | (k, v) :: rest, m => meetEntries rest (meetAll v (meetAll k m))
termination_by structural es => es

end

/-! ## Outlines -/

/-- Exponent parts come after a fraction part; infinity and no number start with a point. -/
def floatLayout : Decimal.Layout :=
  { Decimal.Layout.plain with pointBeforeExponent := true, infinity := ".inf", nan := ".nan" }

/-- The scalar of a value that is no collection. -/
def scalarOf : Datum → Scalar
  | .bool true => ⟨.bool, "true"⟩
  | .bool false => ⟨.bool, "false"⟩
  | .int i => ⟨.int, String.ofList (Json.intText i)⟩
  | .float x => ⟨.float, floatLayout.write x⟩
  | .str s => ⟨.str, s⟩
  | .bytes content => ⟨.binary, base64Lines content⟩
  | .moment _ m => ⟨.timestamp, m.display⟩
  | _ => ⟨.null, "null"⟩

/-- The anchor of a label, if it has one. -/
def anchorOf (repeated : List Nat) (label : Option Nat) : Option Nat :=
  (label.bind repeated.idxOf?).map (· + 1)

/-- A value at one of its places: an alias if it was written before, which `written` tells. The
anchors are those of the labels that are repeated. -/
def atPlace (repeated : List Nat) (label : Option Nat) (isScalar : Bool) (written : List Nat)
    (first : List Nat → Outline × List Nat) : Outline × List Nat :=
  match anchorOf repeated label with
  | some anchor =>
    if Datum.isOneOf label written then (.reference anchor isScalar, written)
    else first (label.toList ++ written)
  | none => first written

mutual

def outline (repeated : List Nat) : Datum → List Nat → Outline × List Nat
  | .again label _, written => (.reference ((anchorOf repeated (some label)).getD 0) false, written)
  | .moment label m, written =>
    atPlace repeated label true written fun written =>
      (.scalar (anchorOf repeated label) (scalarOf (.moment label m)), written)
  | .list label items, written =>
    atPlace repeated label false written fun written =>
      let (items, written) := outlineItems repeated items written
      (.sequence (anchorOf repeated label) items, written)
  | .pair a b, written =>
    let (first, written) := outline repeated a written
    let (second, written) := outline repeated b written
    (.sequence none [first, second], written)
  | .map label entries, written =>
    atPlace repeated label false written fun written =>
      let (entries, written) := outlineEntries repeated entries written
      (.mapping (anchorOf repeated label) .map entries, written)
  | .set label items, written =>
    atPlace repeated label false written fun written =>
      let (items, written) := outlineItems repeated items written
      let entries := items.map fun o => (o, .scalar none (scalarOf .null))
      (.mapping (anchorOf repeated label) .set entries, written)
  | d, written => (.scalar none (scalarOf d), written)
termination_by structural d => d

def outlineItems (repeated : List Nat) : List Datum → List Nat → List Outline × List Nat
  | [], written => ([], written)
  | d :: rest, written =>
    let (o, written) := outline repeated d written
    let (more, written) := outlineItems repeated rest written
    (o :: more, written)
termination_by structural ds => ds

def outlineEntries (repeated : List Nat) :
    List (Datum × Datum) → List Nat → List (Outline × Outline) × List Nat
  | [], written => ([], written)
  | (k, v) :: rest, written =>
    let (key, written) := outline repeated k written
    let (value, written) := outline repeated v written
    let (more, written) := outlineEntries repeated rest written
    ((key, value) :: more, written)
termination_by structural es => es

end

/-- The outline of a value that is not inside another. -/
def Outline.ofDatum (d : Datum) : Outline :=
  let d := ordered d
  (outline (meetAll d ⟨[], []⟩).repeated d []).1

end StyleUsage.Yaml
