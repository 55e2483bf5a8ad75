import StyleUsage.Datum.Arrangement
import StyleUsage.Text.Lowercase
import StyleUsage.Yaml.Binary
import StyleUsage.Yaml.Merge
import StyleUsage.Yaml.Number

/-!
# The value of a YAML document

Each node of a document has the value that its tag asks for; moments and collections keep the labels
of their nodes. A later entry for a key replaces an earlier one. A document without a node is null.
Of several faults of values the one nearest to the root is reported, and of those the first.
-/

namespace StyleUsage.Yaml

/-- A fault of a value and how far the value lies below the node in question. -/
structure Fault where
  depth : Nat
  cause : YamlError

/-- A result for a node below another, as seen from that one. -/
def below {α : Type} (r : Except Fault α) : Except Fault α :=
  r.mapError fun f => { f with depth := f.depth + 1 }

/-- Two results with a function of them. Of two faults the one nearer to the root wins, and of two
equally near ones the first. -/
def both {α β γ : Type} (f : α → β → γ) (a : Except Fault α) (b : Except Fault β) :
    Except Fault γ :=
  match a, b with
  | .ok a, .ok b => .ok (f a b)
  | .ok _, .error e => .error e
  | .error e, .ok _ => .error e
  | .error e, .error e' => .error (if e'.depth < e.depth then e' else e)

/-- A fault of the node itself. -/
def faulty {α : Type} (e : YamlError) : Except Fault α := .error ⟨0, e⟩

/-- A kind of node that a tag does not allow. -/
def wrongKind : YamlError := .badValue "the tag does not fit the kind of the node"

def unknownTag : YamlError := .badValue "could not determine a constructor for the tag"

/-- A merge key without mappings. -/
def nothingToMerge : YamlError :=
  .badValue "expected a mapping or list of mappings for merging"

def scalarValue (label : Nat) (tag : Tag) (text : String) : Except YamlError Datum :=
  match tag with
  | .null => .ok .null
  | .bool =>
    let word := String.ofList (Text.lower text.toList)
    match truthWords.lookup word with
    | some b => .ok (.bool b)
    | none => .error (.unknownTruth word)
  | .int => (readInt text).map .int
  | .float => (readFloat text).map .float
  | .binary => (readBinary text).map .bytes
  | .timestamp => (readMoment text).map (.moment (some label))
  | .str => .ok (.str text)
  | .omap | .pairs | .set | .seq | .map => .error wrongKind
  | .merge | .value | .other _ => .error unknownTag

def written (entries : List (Datum × Datum)) : List (Datum × Datum) :=
  entries.foldl (fun t e => Datum.putEntry t e.1 e.2) []

def mappingValue (label : Nat) (tag : Tag) (entries : List (Datum × Datum)) : Datum :=
  if tag == .set then .set (some label) (Datum.arranged ((written entries).map Prod.fst))
  else .map (some label) (written entries)

/-- The key that a value is for; a collection is none, whatever is in it. -/
def asKey (d : Except Fault Datum) : Except Fault Datum :=
  match d with
  | .ok d => if d.isKeyable then .ok d else faulty (.badValue "found unhashable key")
  | .error f => if f.depth = 0 then .error f else faulty (.badValue "found unhashable key")

/-- The value of a collection, whose parts lie below it. -/
def collected {α : Type} (parts : Except Fault α) (f : α → Datum) : Except Fault Datum :=
  (below parts).map f

mutual

def Node.value : Node → Except Fault Datum
  | .scalar label tag text =>
    match tag with
    | .omap | .pairs | .set | .seq | .map => below (faulty wrongKind)
    | tag => (scalarValue label tag text).mapError (⟨0, ·⟩)
  | .enclosing label isMap => .ok (.again label isMap)
  | .sequence label tag items =>
    match tag with
    | .seq => collected (itemValues items) (.list (some label))
    | .omap | .pairs => collected (pairValues items) (.list (some label))
    | .merge | .value | .other _ => faulty unknownTag
    | .map | .set => below (faulty wrongKind)
    | _ => faulty wrongKind
  | .mapping label tag entries =>
    match tag with
    | .map | .set =>
      if entries.any fun e => e.1.tag == .merge then below (faulty nothingToMerge)
      else collected (entryValues entries) (mappingValue label tag)
    | .merge | .value | .other _ => faulty unknownTag
    | .seq | .omap | .pairs => below (faulty wrongKind)
    | tag => (defaultValue tag entries).mapError (⟨0, ·⟩)
termination_by structural n => n

def itemValues : List Node → Except Fault (List Datum)
  | [] => .ok []
  | n :: rest => both (· :: ·) n.value (itemValues rest)
termination_by structural ns => ns

/-- The pairs of a sequence of mappings with one entry each. -/
def pairValues : List Node → Except Fault (List Datum)
  | [] => .ok []
  | .mapping _ _ [(k, v)] :: rest =>
    both (· :: ·) (both Datum.pair k.value v.value) (pairValues rest)
  | _ => faulty wrongKind
termination_by structural ns => ns

/-- The entries of a mapping. A value key counts as a text. -/
def entryValues : List (Node × Node) → Except Fault (List (Datum × Datum))
  | [] => .ok []
  | (k, v) :: rest =>
    let key :=
      if k.tag == .value then (scalarUnder .str k).mapError (⟨0, ·⟩) else asKey k.value
    both (· :: ·) (both Prod.mk key v.value) (entryValues rest)
termination_by structural es => es

/-- The value of a mapping that stands for a scalar: that of the scalar under its value key. -/
def defaultValue (tag : Tag) : List (Node × Node) → Except YamlError Datum
  | [] => .error wrongKind
  | (k, v) :: rest => if k.tag == .value then scalarUnder tag v else defaultValue tag rest
termination_by structural es => es

def scalarUnder (tag : Tag) : Node → Except YamlError Datum
  | .scalar label _ text => scalarValue label tag text
  | .mapping _ _ entries => defaultValue tag entries
  | _ => .error wrongKind
termination_by structural n => n

end

def read (text : String) : Except YamlError Datum := do
  match ← Node.ofTokens? (tokenize text.toList) with
  | some n => n.withoutMerges.value.mapError Fault.cause
  | none => .ok .null

end StyleUsage.Yaml
