import StyleUsage.Datum.Key
import StyleUsage.Proofs.Collection.Traversal
import StyleUsage.Text.Basic

/-!
# Uses that may fail

A value of a document may be of any kind, and a mapping need not have a key. A reader makes checks
(`check`), and uses a value as one of some kind (`useAs`) or takes what stands under a key
(`useKey`, `useName`). A check refuses a value with a cause of the reader; a use that no check
covers stops it for another cause (`UseError`). A reader in which a check covers every use has the
outcome of one whose uses cannot fail (`SameOutcome.useAs`, `SameOutcome.useAll`). Documents may be
of any format whose values have kinds (`Kinded`).
-/

namespace StyleUsage

/-- Why a reader stops. -/
inductive UseError (ε : Type) where
  /-- A check fails. -/
  | refused (cause : ε)
  /-- A value is used as one of a kind that it is not of; its own kind is given. -/
  | wrongKind (kind : String)
  /-- Nothing stands under a key. -/
  | missingKey (key : String)
  /-- The bytes of a file are used as a text, and are none. -/
  | notText (fault : Text.CodingFault)
  deriving DecidableEq, Repr

/-- Values that are of kinds with names. -/
class Kinded (δ : Type) where
  kindName : δ → String

instance : Kinded Datum := ⟨Datum.kindName⟩

namespace Datum

def isNull : Datum → Bool
  | .null => true
  | _ => false

/-- The truth value that a value is. -/
def bool? : Datum → Option Bool
  | .bool b => some b
  | _ => none

/-- The whole number that a value is. -/
def int? : Datum → Option Int
  | .int i => some i
  | _ => none

theorem isNull_iff {d : Datum} : d.isNull = true ↔ d = .null := by
  cases d <;> simp [isNull]

theorem int?_eq_some_iff {d : Datum} {i : Int} : d.int? = some i ↔ d = .int i := by
  cases d <;> simp [int?]

theorem text?_eq_some_iff {d : Datum} {text : String} : d.text? = some text ↔ d = .str text := by
  cases d <;> simp [text?]

end Datum

variable {ε δ α α' γ : Type} [Kinded δ]

def check (holds : Bool) (cause : ε) : Except (UseError ε) Unit :=
  if holds then .ok () else .error (.refused cause)

def useAs (view? : δ → Option γ) (d : δ) : Except (UseError ε) γ :=
  match view? d with
  | some v => .ok v
  | none => .error (.wrongKind (Kinded.kindName d))

def useKey (entries : List (Datum × Datum)) (key : String) : Except (UseError ε) Datum :=
  match Datum.lookup? entries key with
  | some d => .ok d
  | none => .error (.missingKey key)

def useName (t : Entries String γ) (name : String) : Except (UseError ε) γ :=
  match t.get? name with
  | some v => .ok v
  | none => .error (.missingKey name)

/-! ## Uses that do not fail -/

variable {view? : δ → Option γ}

theorem useAs_eq_ok {d : δ} {v : γ} (h : view? d = some v) :
    useAs view? d = (.ok v : Except (UseError ε) γ) := by
  unfold useAs
  rw [h]

theorem useKey_eq_ok {entries : List (Datum × Datum)} {key : String} {d : Datum}
    (h : Datum.lookup? entries key = some d) :
    useKey entries key = (.ok d : Except (UseError ε) Datum) := by
  unfold useKey
  rw [h]

theorem useKey_bind {entries : List (Datum × Datum)} {key : String} {d : Datum}
    (h : Datum.lookup? entries key = some d) (k : Datum → Except (UseError ε) α) :
    useKey entries key >>= k = k d := by
  rw [useKey_eq_ok h]
  rfl

theorem useName_eq_ok {t : Entries String γ} {name : String} {v : γ} (h : t.get? name = some v) :
    useName t name = (.ok v : Except (UseError ε) γ) := by
  unfold useName
  rw [h]

theorem useName_bind {t : Entries String γ} {name : String} {v : γ} (h : t.get? name = some v)
    (k : γ → Except (UseError ε) α) : useName t name >>= k = k v := by
  rw [useName_eq_ok h]
  rfl

theorem mapM_useAs_eq_ok {items : List δ} {vs : List γ} (h : items.mapM view? = some vs) :
    items.mapM (useAs view?) = (.ok vs : Except (UseError ε) (List γ)) := by
  induction items generalizing vs with
  | nil => cases h; rfl
  | cons d items ih =>
    rw [List.mapM_cons] at h
    obtain ⟨v, hv, h⟩ := Option.bind_eq_some_iff.1 h
    obtain ⟨rest, hrest, h⟩ := Option.bind_eq_some_iff.1 h
    cases h
    rw [List.mapM_cons, useAs_eq_ok hv, ih hrest]
    rfl

/-- A view of every item is one of the whole list. -/
theorem all_isSome_eq {ι : Type} {view? : ι → Option γ} (items : List ι) :
    (items.all fun i => (view? i).isSome) = (items.mapM view?).isSome := by
  induction items with
  | nil => rfl
  | cons i items ih =>
    rw [List.all_cons, ih, List.mapM_cons]
    cases view? i with
    | none => rfl
    | some v => cases items.mapM view? <;> rfl

/-! ## Checks that cover uses -/

namespace SameOutcome

variable {tell : ε → UseError ε} {R : α → α' → Prop} {x : Except ε α} {cause : ε}

theorem check (hcause : tell cause = .refused cause) {holds : Bool}
    {k : Unit → Except (UseError ε) α'} (htrue : holds = true → SameOutcome tell R x (k ()))
    (hfalse : holds = false → x = .error cause) :
    SameOutcome tell R x (StyleUsage.check holds cause >>= k) := by
  cases holds with
  | true => exact htrue rfl
  | false =>
    rw [hfalse rfl]
    show SameOutcome tell R _ (.error (.refused cause))
    rw [← hcause]
    exact .error cause

/-- A value of which there is a view can be used as what it shows. -/
theorem useAs (hcause : tell cause = .refused cause) {d : δ} {k : γ → Except (UseError ε) α'}
    (hsome : ∀ v, view? d = some v → SameOutcome tell R x (k v))
    (hnone : view? d = none → x = .error cause) :
    SameOutcome tell R x (do
      StyleUsage.check (view? d).isSome cause
      let v ← StyleUsage.useAs view? d
      k v) := by
  refine check hcause (fun h => ?_) fun h => hnone (by simpa using h)
  obtain ⟨v, hv⟩ := Option.isSome_iff_exists.1 h
  rw [useAs_eq_ok hv]
  exact hsome v hv

/-- Null may be told apart from other values before they are used. -/
theorem orNull {d : Datum} {y y' : Except (UseError ε) α'}
    (hnull : d = .null → SameOutcome tell R x y)
    (hother : d.isNull = false → SameOutcome tell R x y') :
    SameOutcome tell R x (if d.isNull then y else y') := by
  by_cases h : d.isNull = true
  · rw [if_pos h]
    exact hnull (Datum.isNull_iff.1 h)
  · rw [if_neg h]
    exact hother (by simpa using h)

/-- Items of all of which there is a view can be used as what they show. -/
theorem useAll (hcause : tell cause = .refused cause) {items : List δ}
    {k : List γ → Except (UseError ε) α'}
    (hsome : ∀ vs, items.mapM view? = some vs → SameOutcome tell R x (k vs))
    (hnone : items.mapM view? = none → x = .error cause) :
    SameOutcome tell R x (do
      StyleUsage.check (items.all fun d => (view? d).isSome) cause
      let vs ← items.mapM (StyleUsage.useAs view?)
      k vs) := by
  rw [all_isSome_eq]
  refine check hcause (fun h => ?_) fun h => hnone (by simpa using h)
  obtain ⟨vs, hvs⟩ := Option.isSome_iff_exists.1 h
  rw [mapM_useAs_eq_ok hvs]
  exact hsome vs hvs

end SameOutcome

end StyleUsage
