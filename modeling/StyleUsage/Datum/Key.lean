import StyleUsage.Collection.Entries
import StyleUsage.Datum.Basic
import StyleUsage.Decimal.Number

/-!
# Keys of mappings

Scalars may be keys. Two numbers are one key if they are equal in value, and two moments if they
are one moment; `nan` is one key as well. Keys are in an order as long as they are of one kind:
numbers, texts, bytes or moments.
-/

namespace StyleUsage.Datum

/-- The value as a number, truth values counting as one and zero. -/
def number? : Datum → Option Decimal.Number
  | .bool b => some (.inl (if b then 1 else 0))
  | .int i => some (.inl i)
  | .float x => some (.inr x)
  | _ => none

/-- Whether the value may be the key of a mapping. -/
def isKeyable : Datum → Bool
  | .list .. | .map .. | .set .. | .again .. => false
  | _ => true

/-- Whether two scalars are one and the same key of a mapping. -/
def sameKey (a b : Datum) : Bool :=
  match a, b with
  | .null, .null => true
  | .str s, .str t => s == t
  | .bytes s, .bytes t => s == t
  | .moment _ m, .moment _ n => m.same n
  | .float .nan, .float .nan => true
  | a, b =>
    match a.number?, b.number? with
    | some m, some n => m.same n
    | _, _ => false

/-- Write an entry of a mapping: a key that is there keeps its place. -/
def putEntry : List (Datum × Datum) → Datum → Datum → List (Datum × Datum)
  | [], k, v => [(k, v)]
  | (k', v') :: rest, k, v =>
    if sameKey k' k then (k', v) :: rest else (k', v') :: putEntry rest k v

def getEntry? (entries : List (Datum × Datum)) (key : Datum) : Option Datum :=
  (entries.find? fun e => sameKey e.1 key).map Prod.snd

mutual

/-- Whether two values are alike: numbers by value, lists item by item, mappings by key whatever
their order. -/
def alike : Datum → Datum → Bool
  | .list _ xs, d =>
    match d with
    | .list _ ys => alikeList xs ys
    | _ => false
  | .pair a b, d =>
    match d with
    | .pair c e => alike a c && alike b e
    | _ => false
  | .map _ xs, d =>
    match d with
    | .map _ ys => xs.length == ys.length && alikeEntries xs ys
    | _ => false
  | .set _ xs, d =>
    match d with
    | .set _ ys => xs.length == ys.length && xs.all fun x => ys.any (sameKey x)
    | _ => false
  | .again l _, d =>
    match d with
    | .again l' _ => l == l'
    | _ => false
  | a, b => sameKey a b
termination_by structural d => d

/-- Whether two lists are alike item by item. -/
def alikeList : List Datum → List Datum → Bool
  | [], [] => true
  | x :: xs, y :: ys => alike x y && alikeList xs ys
  | _, _ => false
termination_by structural ds => ds

/-- Whether every entry has a counterpart under the same key. -/
def alikeEntries : List (Datum × Datum) → List (Datum × Datum) → Bool
  | [], _ => true
  | (k, v) :: rest, others =>
    (match getEntry? others k with
      | some w => alike v w
      | none => false) && alikeEntries rest others
termination_by structural es => es

end

/-! ## The order of keys -/

/-- Why two keys are in no order. -/
inductive Incomparable where
  /-- Values of two kinds, by the names of their kinds. -/
  | kinds (first second : String)
  | dayAndTime
  | localAndInstant
  deriving DecidableEq, Repr

/-- The wording of a cause. -/
def Incomparable.message : Incomparable → String
  | .kinds first second =>
    "'<' not supported between instances of '" ++ first ++ "' and '" ++ second ++ "'"
  | .dayAndTime => "can't compare datetime.datetime to datetime.date"
  | .localAndInstant => "can't compare offset-naive and offset-aware datetimes"

def kindName : Datum → String
  | .null => "NoneType"
  | .bool _ => "bool"
  | .int _ => "int"
  | .float _ => "float"
  | .str _ => "str"
  | .bytes _ => "bytes"
  | .moment _ m => if m.time.isSome then "datetime.datetime" else "datetime.date"
  | .list .. => "list"
  | .pair .. => "tuple"
  | .map .. => "dict"
  | .set .. => "set"
  | .again _ isMap => if isMap then "dict" else "list"

def isBefore (m n : Moment) : Except Incomparable Bool :=
  if m.kind = n.kind then .ok (m.position < n.position)
  else if m.kind = .day ∨ n.kind = .day then .error .dayAndTime
  else .error .localAndInstant

def isLess (a b : Datum) : Except Incomparable Bool :=
  match a, b with
  | .str s, .str t => .ok (s < t)
  | .bytes s, .bytes t => .ok (s < t)
  | .moment _ m, .moment _ n => isBefore m n
  | a, b =>
    match a.number?, b.number? with
    | some m, some n => .ok (m.less n)
    | _, _ => .error (.kinds a.kindName b.kindName)

end StyleUsage.Datum
