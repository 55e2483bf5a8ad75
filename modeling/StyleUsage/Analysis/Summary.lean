import StyleUsage.Analysis.Basic
import StyleUsage.Datum.Writing
import StyleUsage.Digest.Sha256

/-!
# The summary of an analysis

The summary names every style by its canonical name. The names are listed in the order of code
points, and other parts refer to a name by its first place in that list, so analyses that found
the same in another order have the same summary. A correlation of a single style tells nothing
and is left out.
-/

namespace StyleUsage

/-- The written form of an analysis. -/
structure Summary where
  template : Descriptor
  /-- The sources of the bound blocks under their local names. -/
  blocks : Entries String String
  /-- The canonical names of the found styles, sorted. -/
  stylesFound : List String
  /-- The places of the dynamic styles in `stylesFound`, sorted. -/
  dynamicStyles : List Nat
  /-- For each correlation of two styles or more their places in `stylesFound`, sorted. -/
  styleCorrelations : List (List Nat)
  deriving Inhabited

namespace Summary

def ofPlaces (places : List Nat) : Datum := .list none (places.map fun i => .int (Int.ofNat i))

def toDatum (s : Summary) : Datum :=
  .ofFields [
    ("template", s.template.toDatum),
    ("blocks", .ofFields (Entries.mapValues .str s.blocks)),
    ("stylesFound", .ofStrings s.stylesFound),
    ("dynamicStyles", ofPlaces s.dynamicStyles),
    ("styleCorrelations", .list none (s.styleCorrelations.map ofPlaces))]

def canonical (s : Summary) : Except Datum.WritingError String := s.toDatum.canonical

/-- The digest that stands for a summary: that of its canonical text. -/
def digest (s : Summary) : Except Datum.WritingError String := s.canonical.map Digest.ofText

end Summary

namespace Analysis

variable {β σ : Type} [DecidableEq β]

/-- The canonical names of some styles, in their order. -/
def namesOf (c : Catalog β σ) (a : Analysis β σ) (styles : OrderedSet σ) : List String :=
  styles.toList.map (a.canonicalName c)

/-- The places of names in a sorted list, sorted. -/
def placesIn (sorted names : List String) : List Nat :=
  (names.map fun n => sorted.idxOf n).mergeSort

/-- The summary of an analysis as it stands. Styles of an element that is still open count as
found and as dynamic, but are in no correlation. -/
def summarize (c : Catalog β σ) (a : Analysis β σ) : Summary :=
  let sorted := (a.namesOf c a.found).mergeSort
  { template := a.template.describe
    blocks := Entries.mapValues c.source a.bindings
    stylesFound := sorted
    dynamicStyles := placesIn sorted (a.namesOf c a.dynamic)
    styleCorrelations :=
      (a.correlations.filter fun s => 1 < s.size).map fun s => placesIn sorted (a.namesOf c s) }

end Analysis

end StyleUsage
