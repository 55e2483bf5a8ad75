import StyleUsage.Analysis.Scope
import StyleUsage.Block.Dependencies
import StyleUsage.Template.Info

/-!
# The analysis of a template

An analysis keeps book of the styles that a walk over a template comes across: which were found,
which of them may apply conditionally, and which occurred together on one element. Blocks are
bound under the local names that the template knows them by. A walk is a list of steps; a step
that breaches the protocol changes nothing.
-/

namespace StyleUsage

/-- What is known of a template so far. -/
structure Analysis (β σ : Type) where
  template : TemplateInfo
  /-- The bound blocks under their local names, in the order in which the names were bound. -/
  bindings : Entries String β
  /-- The styles found, in the order in which they were first added. -/
  found : OrderedSet σ
  /-- The styles that may apply conditionally. -/
  dynamic : OrderedSet σ
  /-- The styles of each element that had some, in the order in which the elements were closed. -/
  correlations : List (OrderedSet σ)
  scope : Scope σ
  deriving Inhabited

/-- What a walker tells. -/
inductive WalkStep (β σ : Type) where
  | bind (localName : String) (block : β)
  | start
  | add (style : σ)
  | mark (style : σ)
  | finish
  deriving DecidableEq, Repr

namespace Analysis

variable {β σ : Type}

/-- The analysis before the walk. -/
def begin (template : TemplateInfo) : Analysis β σ where
  template
  bindings := []
  found := ∅
  dynamic := ∅
  correlations := []
  scope := .idle

/-- Bind a block under a local name. A name that is bound again keeps its place. -/
def bind (a : Analysis β σ) (localName : String) (block : β) : Analysis β σ :=
  { a with bindings := Entries.put a.bindings localName block }

def startElement (a : Analysis β σ) : Except ProtocolError (Analysis β σ) :=
  a.scope.start.map fun scope => { a with scope }

def endElement (a : Analysis β σ) : Analysis β σ :=
  let (correlation, scope) := a.scope.commit
  { a with correlations := a.correlations ++ correlation.toList, scope }

variable [DecidableEq σ]

def addStyle (a : Analysis β σ) (style : σ) : Analysis β σ :=
  { a with found := a.found.insert style, scope := a.scope.add style }

/-- Mark a style as dynamic. This fails if the style was not added before. -/
def markDynamic (a : Analysis β σ) (style : σ) : Except ProtocolError (Analysis β σ) :=
  if style ∈ a.found then .ok { a with dynamic := a.dynamic.insert style }
  else .error .notYetAdded

def step (a : Analysis β σ) : WalkStep β σ → Except ProtocolError (Analysis β σ)
  | .bind localName block => .ok (a.bind localName block)
  | .start => a.startElement
  | .add style => .ok (a.addStyle style)
  | .mark style => a.markDynamic style
  | .finish => .ok a.endElement

/-- Take one step, or none if it fails. -/
def stepOrStay (a : Analysis β σ) (s : WalkStep β σ) : Analysis β σ :=
  match a.step s with
  | .ok a' => a'
  | .error _ => a

/-- Take steps one after another; a step that fails is passed over. -/
def run (a : Analysis β σ) (steps : List (WalkStep β σ)) : Analysis β σ :=
  steps.foldl stepOrStay a

/-- Take steps one after another up to the first failure. -/
def runAll (a : Analysis β σ) (steps : List (WalkStep β σ)) :
    Except ProtocolError (Analysis β σ) :=
  steps.foldlM step a

/-! ## Queries -/

def wasFound (a : Analysis β σ) (style : σ) : Bool := decide (style ∈ a.found)

/-- Whether a style may apply conditionally. -/
def isDynamic (a : Analysis β σ) (style : σ) : Bool := decide (style ∈ a.dynamic)

/-- Whether some correlation holds all the given styles. -/
def areCorrelated (a : Analysis β σ) (styles : List σ) : Bool :=
  a.correlations.any fun c => c.containsAll styles

omit [DecidableEq σ]

/-- The bound blocks, once for each local name. -/
def referencedBlocks (a : Analysis β σ) : List β := Entries.values a.bindings

variable [DecidableEq β]

def blockName? (a : Analysis β σ) (block : β) : Option String :=
  (a.bindings.find? fun p => decide (p.2 = block)).map Prod.fst

/-- The bound blocks, each once. -/
def blockDependencies (a : Analysis β σ) : OrderedSet β :=
  OrderedSet.ofList a.referencedBlocks

/-- The bound blocks and everything that is reported by them, by what they report, and so on. -/
def transitiveBlockDependencies (c : Catalog β σ) (a : Analysis β σ) : OrderedSet β :=
  c.reports.closure a.referencedBlocks

/-- The canonical name of a style: the local name of its block, if it is bound, and its source
text. -/
def canonicalName (c : Catalog β σ) (a : Analysis β σ) (style : σ) : String :=
  (a.blockName? (c.owner style)).getD "" ++ c.fragment style

end Analysis

end StyleUsage
