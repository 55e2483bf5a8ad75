import StyleUsage.Analysis.Summary
import StyleUsage.Template.Registry

/-!
# Records

A record is a summary that was read back, with its template rebuilt through a registry. Reading
checks the shape of the summary part by part, so that every place in it is the place of a name. A
record answers the questions of an analysis by canonical names; a name that occurs twice means
its first occurrence.
-/

namespace StyleUsage

/-- A part of a summary that lists places. -/
inductive PlaceList where
  | dynamicStyles
  | correlation (index : Nat)
  deriving DecidableEq, Repr

/-- The name of such a part. -/
def PlaceList.name : PlaceList → String
  | .dynamicStyles => "dynamicStyles"
  | .correlation n => "styleCorrelations[" ++ toString n ++ "]"

/-- Why a value is no summary. -/
inductive RecordError where
  | notAnObject
  | missingField (key : String)
  | malformedTemplate
  | malformedPayload
  | malformedBlocks
  | malformedStyles
  | unsortedStyles
  | notAList (part : PlaceList)
  | notAnInteger (part : PlaceList)
  | outOfRange (part : PlaceList) (place : Int) (size : Nat)
  | unsorted (part : PlaceList)
  | malformedCorrelations
  | shortCorrelation (index : Nat)
  /-- The summary is well formed, but its template cannot be rebuilt. -/
  | template (cause : DescriptorError)
  deriving DecidableEq, Repr

/-- The wording of a cause. -/
def RecordError.message : RecordError → String
  | .notAnObject => "analysis must be an object"
  | .missingField key => "missing required field: " ++ key
  | .malformedTemplate => "template must have string 'type' and 'identifier'"
  | .malformedPayload => "template.data must be a list"
  | .malformedBlocks => "blocks must map local names to source strings"
  | .malformedStyles => "stylesFound must be a list of strings"
  | .unsortedStyles => "stylesFound must be sorted ascending"
  | .notAList part => part.name ++ " must be a list"
  | .notAnInteger part => part.name ++ " must contain integers"
  | .outOfRange part place size =>
    part.name ++ " index " ++ toString place ++ " out of range for " ++ toString size ++ " styles"
  | .unsorted part => part.name ++ " must be sorted ascending"
  | .malformedCorrelations => "styleCorrelations must be a list"
  | .shortCorrelation n => "styleCorrelations[" ++ toString n ++ "] must have at least two styles"
  | .template cause => cause.message

/-- A summary that was read back. -/
structure Record where
  template : TemplateInfo
  blocks : Entries String String
  stylesFound : List String
  dynamicStyles : List Nat
  styleCorrelations : List (List Nat)
  deriving Inhabited

namespace Record

/-- Whether each item is no greater than the next. -/
def isAscending {α : Type} [LE α] [DecidableLE α] : List α → Bool
  | a :: b :: rest => decide (a ≤ b) && isAscending (b :: rest)
  | _ => true

def readPlace (size : Nat) (part : PlaceList) : Datum → Except RecordError Nat
  | .int i => if 0 ≤ i ∧ i < size then .ok i.toNat else .error (.outOfRange part i size)
  | _ => .error (.notAnInteger part)

/-- A sorted list of places below `size`. -/
def readPlaces (size : Nat) (part : PlaceList) (d : Datum) : Except RecordError (List Nat) :=
  match d.items? with
  | some items => do
    let places ← items.mapM (readPlace size part)
    if isAscending places then .ok places else .error (.unsorted part)
  | none => .error (.notAList part)

/-- The correlations from the one with number `n` on. -/
def readCorrelations (size : Nat) : Nat → List Datum → Except RecordError (List (List Nat))
  | _, [] => .ok []
  | n, d :: rest => do
    let places ← readPlaces size (.correlation n) d
    if places.length < 2 then .error (.shortCorrelation n)
    else
      let others ← readCorrelations size (n + 1) rest
      .ok (places :: others)

/-- A field that must be there. -/
def require (entries : List (Datum × Datum)) (key : String) : Except RecordError Datum :=
  match Datum.lookup? entries key with
  | some d => .ok d
  | none => .error (.missingField key)

/-- The descriptor that the field `template` holds. -/
def readTemplate (d : Datum) : Except RecordError Descriptor :=
  let entries := d.entries?.getD []
  match Datum.lookup? entries "type", Datum.lookup? entries "identifier" with
  | some (.str type), some (.str identifier) =>
    match Datum.lookup? entries "data", (Datum.lookup entries "data").items? with
    | none, _ => .ok ⟨type, .str identifier, none⟩
    | some _, some items => .ok ⟨type, .str identifier, some items⟩
    | some _, none => .error .malformedPayload
  | _, _ => .error .malformedTemplate

/-- The sources that the field `blocks` holds. -/
def readBlocks (d : Datum) : Except RecordError (Entries String String) :=
  let source? : Datum × Datum → Option (String × String)
    | (.str name, .str source) => some (name, source)
    | _ => none
  match d.entries?.bind fun entries => entries.mapM source? with
  | some sources => .ok sources
  | none => .error .malformedBlocks

/-- The names that the field `stylesFound` holds. -/
def readStyles (d : Datum) : Except RecordError (List String) :=
  match d.items?.bind fun items => items.mapM Datum.text? with
  | some names => if isAscending names then .ok names else .error .unsortedStyles
  | none => .error .malformedStyles

/-- Read a summary. Its shape is checked before its template is rebuilt. -/
def read (registry : Registry) (data : Datum) : Except RecordError Record :=
  match data.entries? with
  | some entries => do
    let template ← require entries "template"
    let blocks ← require entries "blocks"
    let styles ← require entries "stylesFound"
    let dynamic ← require entries "dynamicStyles"
    let correlations ← require entries "styleCorrelations"
    let descriptor ← readTemplate template
    let blocks ← readBlocks blocks
    let stylesFound ← readStyles styles
    let size := stylesFound.length
    let dynamicStyles ← readPlaces size .dynamicStyles dynamic
    let styleCorrelations ← match correlations.items? with
      | some items => readCorrelations size 0 items
      | none => .error .malformedCorrelations
    let template ← (registry.rebuild descriptor).mapError .template
    .ok { template, blocks, stylesFound, dynamicStyles, styleCorrelations }
  | none => .error .notAnObject

def toSummary (r : Record) : Summary where
  template := r.template.describe
  blocks := r.blocks
  stylesFound := r.stylesFound
  dynamicStyles := r.dynamicStyles
  styleCorrelations := r.styleCorrelations

def placeOf? (r : Record) (name : String) : Option Nat := r.stylesFound.idxOf? name

def wasFound (r : Record) (name : String) : Bool := r.stylesFound.contains name

/-- Whether the style of this name may apply conditionally. -/
def isDynamic (r : Record) (name : String) : Bool :=
  match r.placeOf? name with
  | some i => r.dynamicStyles.contains i
  | none => false

/-- Whether some correlation holds the styles of all the given names. -/
def areCorrelated (r : Record) (names : List String) : Bool :=
  match names.mapM r.placeOf? with
  | some places => r.styleCorrelations.any fun c => places.all fun i => c.contains i
  | none => false

def correlationNames (r : Record) : List (List String) :=
  r.styleCorrelations.map fun c => c.map fun i => r.stylesFound[i]?.getD ""

end Record

end StyleUsage
