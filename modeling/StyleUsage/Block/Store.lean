import StyleUsage.Block.Dependencies

/-!
# A store of blocks and styles

Blocks and styles are made one after another and known by their numbers, so two blocks with equal
sources and two styles with equal fragments stay distinct. A block has at most one style for each
fragment; a further style for the same fragment can only be made beside it.
-/

namespace StyleUsage

/-- The handle of a stored block. -/
structure BlockId where
  index : Nat
  deriving DecidableEq, Repr, Inhabited

/-- The handle of a stored style. -/
structure StyleId where
  index : Nat
  deriving DecidableEq, Repr, Inhabited

/-- A block: where it comes from, what it depends on, and its styles by fragment. -/
structure StoredBlock where
  source : String
  /-- The blocks it was declared to depend on, in order. -/
  dependencies : List BlockId
  /-- Whether the block reports just the blocks it was given, and not what they depend on. -/
  reportsAsGiven : Bool
  styles : Entries String StyleId
  deriving Inhabited

/-- A style: the block that owns it and its source text there. -/
structure StoredStyle where
  owner : BlockId
  fragment : String
  deriving Inhabited

/-- All blocks and styles made so far. -/
structure BlockStore where
  blocks : List StoredBlock
  styles : List StoredStyle
  deriving Inhabited

namespace BlockStore

def empty : BlockStore := ⟨[], []⟩

def block (s : BlockStore) (b : BlockId) : StoredBlock :=
  s.blocks[b.index]?.getD default

def style (s : BlockStore) (i : StyleId) : StoredStyle :=
  s.styles[i.index]?.getD default

def addBlock (s : BlockStore) (source : String) (reportsAsGiven : Bool) : BlockId × BlockStore :=
  (⟨s.blocks.length⟩, { s with blocks := s.blocks ++ [⟨source, [], reportsAsGiven, []⟩] })

/-- Change the block of a handle. -/
def modifyBlock (s : BlockStore) (b : BlockId) (f : StoredBlock → StoredBlock) : BlockStore :=
  { s with blocks := s.blocks.modify b.index f }

def depend (s : BlockStore) (b : BlockId) (on : List BlockId) : BlockStore :=
  s.modifyBlock b fun x => { x with dependencies := x.dependencies ++ on }

/-- Make a style that its block does not know of. -/
def addTwin (s : BlockStore) (b : BlockId) (fragment : String) : StyleId × BlockStore :=
  (⟨s.styles.length⟩, { s with styles := s.styles ++ [⟨b, fragment⟩] })

/-- The style of a block for a fragment, made if there is none yet. -/
def styleFor (s : BlockStore) (b : BlockId) (fragment : String) : StyleId × BlockStore :=
  match Entries.get? (s.block b).styles fragment with
  | some i => (i, s)
  | none =>
    let (i, s) := s.addTwin b fragment
    (i, s.modifyBlock b fun x => { x with styles := Entries.put x.styles fragment i })

def declared (s : BlockStore) : Dependencies BlockId :=
  s.blocks.mapIdx fun i x => (⟨i⟩, x.dependencies)

def reported (s : BlockStore) (b : BlockId) : List BlockId :=
  let x := s.block b
  if x.reportsAsGiven then x.dependencies else (s.declared.below b).toList

def catalog (s : BlockStore) : Catalog BlockId StyleId where
  source b := (s.block b).source
  reports := s.blocks.mapIdx fun i _ => (⟨i⟩, s.reported ⟨i⟩)
  owner i := (s.style i).owner
  fragment i := (s.style i).fragment

end BlockStore

end StyleUsage
