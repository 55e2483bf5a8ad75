import StyleUsage.Toml.Value

/-!
# The tables of a TOML document while it is read

A table may come about in three ways: it is declared by a header, it is written by the dotted keys
of a section, or it is implied by a header further down. A declared table cannot be declared again,
dotted keys reach only tables that are implied or that the same section has written, and no key is
given two values.
-/

namespace StyleUsage.Toml

/-- How a table has come about. -/
inductive Origin where
  | implied
  /-- By dotted keys of the section with a number. -/
  | dotted (number : Nat)
  | declared
  deriving DecidableEq, Repr, Inhabited

/-- A part of a document while it is read. -/
inductive Tree where
  | leaf (v : Toml)
  | table (origin : Origin) (fields : List (String × Tree))
  /-- Tables under one header that is written several times: those before the last one, in the
  order from the last to the first, and the last one, which grows. -/
  | tables (before : List (List (String × Tree))) (last : List (String × Tree))
  deriving Inhabited

/-- The fields of a table while it is read. -/
abbrev Fields := List (String × Tree)

namespace Fields

/-- Change what a path of keys leads to. Tables on the way are implied if they are missing; of
several tables under one header the last one is taken. -/
def change (fault : TomlError) (f : Option Tree → Except TomlError Tree) :
    List String → Fields → Except TomlError Fields
  | [], _ => .error fault
  | [k], fields => do
    let t ← f (Entries.get? fields k)
    .ok (Entries.put fields k t)
  | k :: path, fields => do
    let t ← match Entries.get? fields k with
      | none => (change fault f path []).map (.table .implied)
      | some (.table origin inner) => (change fault f path inner).map (.table origin)
      | some (.tables before last) => (change fault f path last).map (.tables before)
      | some (.leaf _) => .error fault
    .ok (Entries.put fields k t)

/-- Declare the table of a header. -/
def declare (path : List String) (fields : Fields) : Except TomlError Fields :=
  change (.repeatedTable path) (fun
    | none => .ok (.table .declared [])
    | some (.table .implied inner) => .ok (.table .declared inner)
    | some _ => .error (.repeatedTable path)) path fields

/-- Declare one more table of a header that may be written several times. -/
def declareNext (path : List String) (fields : Fields) : Except TomlError Fields :=
  change (.repeatedTable path) (fun
    | none => .ok (.tables [] [])
    | some (.tables before last) => .ok (.tables (last :: before) [])
    | some _ => .error (.repeatedTable path)) path fields

/-- Whether the dotted keys of a section reach a table. -/
def isOpenTo (number : Nat) : Origin → Bool
  | .implied => true
  | .dotted n => n == number
  | .declared => false

/-- Give a value to a dotted key in the section with a number. -/
def assign (number : Nat) (fault : TomlError) (v : Toml) :
    List String → Fields → Except TomlError Fields
  | [], _ => .error fault
  | [k], fields =>
    if Entries.has fields k then .error fault else .ok (Entries.put fields k (.leaf v))
  | k :: path, fields => do
    let inner ← match Entries.get? fields k with
      | none => assign number fault v path []
      | some (.table origin inner) =>
        if isOpenTo number origin then assign number fault v path inner else .error fault
      | some _ => .error fault
    .ok (Entries.put fields k (.table (.dotted number) inner))

/-- Give a value to a dotted key in the section of a header. -/
def assignUnder (header : List String) (number : Nat) (key : List String) (v : Toml)
    (fields : Fields) : Except TomlError Fields :=
  let fault := TomlError.repeatedKey (header ++ key)
  if header.isEmpty then assign number fault v key fields
  else
    change fault (fun
      | some (.table origin inner) => (assign number fault v key inner).map (.table origin)
      | some (.tables before last) => (assign number fault v key last).map (.tables before)
      | _ => .error fault) header fields

end Fields

mutual

def Tree.value : Tree → Toml
  | .leaf v => v
  | .table _ fields => .table (fieldValues fields)
  | .tables before last => .array ((tableValues before).reverse ++ [.table (fieldValues last)])
termination_by structural t => t

def fieldValues : List (String × Tree) → List (String × Toml)
  | [] => []
  | (k, t) :: rest => (k, t.value) :: fieldValues rest
termination_by structural fs => fs

def tableValues : List (List (String × Tree)) → List Toml
  | [] => []
  | fields :: rest => .table (fieldValues fields) :: tableValues rest
termination_by structural ts => ts

end

end StyleUsage.Toml
