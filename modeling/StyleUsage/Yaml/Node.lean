import StyleUsage.Collection.Entries
import StyleUsage.Yaml.Resolve
import StyleUsage.Yaml.Tokenize

/-!
# From tokens to a tree

A document is a tree of scalars, sequences and mappings, each with a tag and a label of its own. An
alias stands for the node that carries its anchor; the anchor must come before it, and no anchor may
be given twice. An alias inside the node that carries its anchor is a place that holds the label of
that node. Tokens are asked for one after another, so that a fault of the text counts only if the
tokens before it form a document so far.
-/

namespace StyleUsage.Yaml

/-- A node of a document. -/
inductive Node where
  | scalar (label : Nat) (tag : Tag) (text : String)
  | sequence (label : Nat) (tag : Tag) (items : List Node)
  | mapping (label : Nat) (tag : Tag) (entries : List (Node × Node))
  /-- The place of a sequence or mapping inside itself. -/
  | enclosing (label : Nat) (isMap : Bool)
  deriving Inhabited

namespace Node

mutual

/-- Put a node into every place that holds its label. -/
def fill (label : Nat) (whole : Node) : Node → Node
  | .scalar l tag text => .scalar l tag text
  | .sequence l tag items =>
    .sequence l tag (if l = label then items else fillList label whole items)
  | .mapping l tag entries =>
    .mapping l tag (if l = label then entries else fillEntries label whole entries)
  | .enclosing l isMap => if l = label then whole else .enclosing l isMap
termination_by structural n => n

/-- Put a node into its places in the items of a sequence. -/
def fillList (label : Nat) (whole : Node) : List Node → List Node
  | [] => []
  | n :: rest => fill label whole n :: fillList label whole rest
termination_by structural ns => ns

/-- Put a node into its places in the entries of a mapping. -/
def fillEntries (label : Nat) (whole : Node) : List (Node × Node) → List (Node × Node)
  | [] => []
  | (k, v) :: rest => (fill label whole k, fill label whole v) :: fillEntries label whole rest
termination_by structural es => es

end

/-- The tag of a node; a place that holds a label has the tag of its kind. -/
def tag : Node → Tag
  | .scalar _ tag _ | .sequence _ tag _ | .mapping _ tag _ => tag
  | .enclosing _ isMap => if isMap then .map else .seq

end Node

/-- What is known while a document is read. -/
structure Composer where
  tokens : Tokens
  anchors : Entries String Node
  /-- What the handles of tags stand for. -/
  handles : Entries String String
  nextLabel : Nat

/-- A step of reading. -/
abbrev Compose := StateT Composer (Except YamlError)

namespace Compose

/-- Complain about the next token. -/
def refuse {α : Type} (reason : String) : Compose α := throw (.badStructure reason)

def peek : Compose Token := do
  let tokens := (← get).tokens
  match tokens.ready, tokens.fault with
  | t :: _, _ => return t
  | [], some e => throw e
  | [], none => return .streamEnd

/-- Go over the next token. -/
def skip : Compose Unit :=
  modify fun s => { s with tokens := { s.tokens with ready := s.tokens.ready.drop 1 } }

def newLabel : Compose Nat :=
  modifyGet fun s => (s.nextLabel, { s with nextLabel := s.nextLabel + 1 })

def aliased (name : String) : Compose Node := do
  match Entries.get? (← get).anchors name with
  | some n => return n
  | none => throw (.undefinedAlias name)

def noteAnchor (anchor : Option String) (n : Node) : Compose Unit :=
  match anchor with
  | some name => modify fun s => { s with anchors := Entries.put s.anchors name n }
  | none => pure ()

/-- Refuse an anchor that some node carries already. -/
def checkAnchor (anchor : Option String) : Compose Unit := do
  match anchor with
  | some name => if Entries.has (← get).anchors name then throw (.repeatedAnchor name)
  | none => pure ()

/-- The anchor and the tag in front of a node, in either order. -/
def properties : Compose (Option String × Option (Option String × String)) := do
  match ← peek with
  | .anchor name =>
    skip
    match ← peek with
    | .tag handle suffix => skip; return (some name, some (handle, suffix))
    | _ => return (some name, none)
  | .tag handle suffix =>
    skip
    match ← peek with
    | .anchor name => skip; return (some name, some (handle, suffix))
    | _ => return (none, some (handle, suffix))
  | _ => return (none, none)

/-- The full identifier of a tag. -/
def tagUri (tag : Option (Option String × String)) : Compose (Option String) := do
  match tag with
  | none => return none
  | some (none, suffix) => return some suffix
  | some (some handle, suffix) =>
    match Entries.get? (← get).handles handle with
    | some uri => return some (uri ++ suffix)
    | none => refuse "found undefined tag handle"

/-- A scalar without content. -/
def emptyScalar : Node := .scalar 0 .null ""

/-- A collection that may carry an anchor. Inside it the anchor stands for the place of the
collection; at its end the collection takes these places in all nodes that carry an anchor. -/
def collection (anchor : Option String) (isMap : Bool) (parts : Nat → Compose Node) :
    Compose Node := do
  let label ← newLabel
  noteAnchor anchor (.enclosing label isMap)
  let n ← parts label
  if anchor.isSome then
    modify fun s => { s with anchors := Entries.mapValues (Node.fill label n) s.anchors }
  return n

mutual

/-- A node. Block collections are allowed if `block` is true, and a sequence that is not indented
if `indentless` is true. -/
def node (block indentless : Bool) : Nat → Compose Node
  | 0 => refuse "expected the node content"
  | fuel + 1 => do
    match ← peek with
    | .aliasTo name => skip; aliased name
    | _ =>
      let (anchor, tag) ← properties
      let uri ← tagUri tag
      checkAnchor anchor
      -- a lone exclamation mark asks for the tag of the kind of the node
      let explicit := if uri = some "!" then none else uri
      let seqTag := (explicit.map Tag.ofUri).getD .seq
      let mapTag := (explicit.map Tag.ofUri).getD .map
      let scalar (tag : Tag) (text : String) : Compose Node := do
        let n := Node.scalar (← newLabel) tag text
        noteAnchor anchor n
        return n
      match ← peek with
      | .scalar text plain =>
        skip
        let implicit := (plain && uri.isNone) || uri = some "!"
        match explicit with
        | some u => scalar (Tag.ofUri u) text
        | none => scalar (if implicit then resolve text else .str) text
      | .flowSequenceStart =>
        skip
        collection anchor false fun l => return .sequence l seqTag (← flowItems true fuel)
      | .flowMappingStart =>
        skip
        collection anchor true fun l => return .mapping l mapTag (← flowEntries true fuel)
      | t =>
        if indentless && t == .blockEntry then
          collection anchor false fun l => return .sequence l seqTag (← flushItems fuel)
        else if block && t == .blockSequenceStart then do
          skip
          collection anchor false fun l => return .sequence l seqTag (← blockItems fuel)
        else if block && t == .blockMappingStart then do
          skip
          collection anchor true fun l => return .mapping l mapTag (← blockEntries fuel)
        else if anchor.isSome || uri.isSome then
          match explicit with
          | some u => scalar (Tag.ofUri u) ""
          | none => scalar .null ""
        else refuse "expected the node content"

def blockItems : Nat → Compose (List Node)
  | 0 => refuse "expected <block end>"
  | fuel + 1 => do
    match ← peek with
    | .blockEntry =>
      skip
      let item ← nodeUnless true false [.blockEntry, .blockEnd] fuel
      return item :: (← blockItems fuel)
    | .blockEnd => skip; return []
    | _ => refuse "expected <block end>"

/-- The items of a block sequence that stands as a value without further indentation. -/
def flushItems : Nat → Compose (List Node)
  | 0 => refuse "expected <block end>"
  | fuel + 1 => do
    match ← peek with
    | .blockEntry =>
      skip
      let item ← nodeUnless true false [.blockEntry, .key, .value, .blockEnd] fuel
      return item :: (← flushItems fuel)
    | _ => return []

def blockEntries : Nat → Compose (List (Node × Node))
  | 0 => refuse "expected <block end>"
  | fuel + 1 => do
    match ← peek with
    | .key =>
      skip
      let k ← nodeUnless true true [.key, .value, .blockEnd] fuel
      let v ← match ← peek with
        | .value =>
          skip
          nodeUnless true true [.key, .value, .blockEnd] fuel
        | _ => pure emptyScalar
      return (k, v) :: (← blockEntries fuel)
    | .blockEnd => skip; return []
    | _ => refuse "expected <block end>"

/-- The items of a sequence in brackets, from the first or a later one on. -/
def flowItems (first : Bool) : Nat → Compose (List Node)
  | 0 => refuse "expected ',' or ']'"
  | fuel + 1 => do
    let t ← peek
    if t == .flowSequenceEnd then do
      skip
      return []
    else
      if !first then
        if t == .flowEntry then skip else refuse "expected ',' or ']'"
      match ← peek with
      | .flowSequenceEnd => skip; return []
      | .key =>
        skip
        let ends : List Token := [.value, .flowEntry, .flowSequenceEnd]
        let k ← nodeUnless false false ends fuel
        let v ← match ← peek with
          | .value =>
            skip
            nodeUnless false false [.flowEntry, .flowSequenceEnd] fuel
          | _ => pure emptyScalar
        return .mapping (← newLabel) .map [(k, v)] :: (← flowItems false fuel)
      | _ =>
        let item ← node false false fuel
        return item :: (← flowItems false fuel)

/-- The entries of a mapping in brackets, from the first or a later one on. -/
def flowEntries (first : Bool) : Nat → Compose (List (Node × Node))
  | 0 => refuse "expected ',' or a closing brace"
  | fuel + 1 => do
    let t ← peek
    if t == .flowMappingEnd then do
      skip
      return []
    else
      if !first then
        if t == .flowEntry then skip else refuse "expected ',' or a closing brace"
      match ← peek with
      | .flowMappingEnd => skip; return []
      | .key =>
        skip
        let k ← nodeUnless false false [.value, .flowEntry, .flowMappingEnd] fuel
        let v ← match ← peek with
          | .value =>
            skip
            nodeUnless false false [.flowEntry, .flowMappingEnd] fuel
          | _ => pure emptyScalar
        return (k, v) :: (← flowEntries false fuel)
      | _ =>
        let k ← node false false fuel
        return (k, emptyScalar) :: (← flowEntries false fuel)

/-- A node, or a scalar without content if one of the given tokens comes next. -/
def nodeUnless (block indentless : Bool) (ends : List Token) : Nat → Compose Node
  | 0 => refuse "expected the node content"
  | fuel + 1 => do
    if ends.contains (← peek) then return emptyScalar else node block indentless fuel

end

/-- The handles that every document knows. -/
def standardHandles : Entries String String :=
  [("!", "!"), ("!!", "tag:yaml.org,2002:")]

/-- The directives in front of a document. -/
def directives : Nat → Bool → Compose Unit
  | 0, _ => pure ()
  | fuel + 1, versioned => do
    match ← peek with
    | .directive d =>
      skip
      match d with
      | .version major =>
        if versioned then refuse "found duplicate YAML directive"
        else if major ≠ 1 then refuse "found incompatible YAML document"
        else directives fuel true
      | .tagPrefix handle uri =>
        if Entries.has (← get).handles handle then refuse "duplicate tag handle"
        else
          modify fun s => { s with handles := Entries.put s.handles handle uri }
          directives fuel versioned
      | .unknown => directives fuel versioned
    | _ => pure ()

/-- Let the standard handles stand for what they do, unless a directive says otherwise. -/
def addStandardHandles : Compose Unit :=
  modify fun s =>
    let missing := standardHandles.filter fun p => !Entries.has s.handles p.1
    { s with handles := s.handles ++ missing }

/-- Whether a document without content ends here. -/
def endsDocument : Token → Bool
  | .directive _ | .documentStart | .documentEnd | .streamEnd => true
  | _ => false

/-- Go over the marks that end a document. -/
def skipEnds : Nat → Compose Unit
  | 0 => pure ()
  | fuel + 1 => do
    if (← peek) == .documentEnd then
      skip
      skipEnds fuel

/-- The root of a document that a mark opens, null if the document has no content. -/
def markedRoot (fuel : Nat) : Compose Node := do
  directives fuel false
  addStandardHandles
  if (← peek) != .documentStart then refuse "expected '<document start>'"
  else
    skip
    if endsDocument (← peek) then return emptyScalar else node true false fuel

/-- The root of the first document of a text, nothing if the text holds no document. -/
def firstRoot? (fuel : Nat) : Compose (Option Node) := do
  match ← peek with
  | .streamEnd => return none
  | .directive _ | .documentStart => return some (← markedRoot fuel)
  | _ =>
    addStandardHandles
    return some (← node true false fuel)

/-- The root of the only document of a text, nothing if the text holds no document. -/
def onlyRoot? (fuel : Nat) : Compose (Option Node) := do
  let n ← firstRoot? fuel
  skipEnds fuel
  match ← peek with
  | .streamEnd => return n
  | .directive _ | .documentStart => throw .severalDocuments
  | _ => refuse "expected '<document start>'"

end Compose

/-- The root of the only document of a text, nothing if the text holds no document. -/
def Node.ofTokens? (tokens : Tokens) : Except YamlError (Option Node) := do
  -- each token is met at most twice on the way down
  let fuel := 3 * tokens.ready.length + 3
  let (n, _) ← (Compose.onlyRoot? fuel).run ⟨tokens, [], [], 1⟩
  .ok n

end StyleUsage.Yaml
