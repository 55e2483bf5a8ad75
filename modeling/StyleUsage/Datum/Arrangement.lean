import StyleUsage.Datum.Key

/-!
# The order of the members of a set

A set keeps its members in a table and gives them in the order of their places there. The hash of
a member says where it belongs; if that place is taken, a few places behind it are looked at, and
then a place elsewhere. Numbers that are equal have one hash, so whole numbers and doubles share
theirs. The hashes of texts, bytes and moments are no fixed ones, and a set with one of these keeps
its members in the order in which they came.
-/

namespace StyleUsage.Datum

open Decimal (Double twoPow)

/-! ## Hashes -/

def hashModulus : Nat := twoPow 61 - 1

/-- The hash of a finite number; as `2 ^ 61` leaves one, exponents count by their remainders. -/
def finiteHash (negative : Bool) (mantissa : Nat) (exponent : Int) : Int :=
  let size : Int := ↑(mantissa * twoPow (exponent % 61).toNat % hashModulus)
  if !negative then size else if size = 1 then -2 else -size

/-- The hash of a value, if it is a fixed one. -/
def hash? : Datum → Option Int
  | .null => some 0xFCA86420
  | .bool b => some (if b then 1 else 0)
  | .int i => some (finiteHash (i < 0) i.natAbs 0)
  | .float (.finite negative mantissa exponent) => some (finiteHash negative mantissa exponent)
  | .float (.infinity negative) => some (if negative then -314159 else 314159)
  | .str s => if s.isEmpty then some 0 else none
  | .bytes content => if content.isEmpty then some 0 else none
  | _ => none

/-! ## Places -/

/-- The size of a table: the least power of two above twice the number of its members, but for few
members the least size of all. -/
def tableSize (count : Nat) : Nat :=
  if count < 5 then 8 else twoPow (Nat.log2 (2 * count) + 1)

/-- The places that are looked at together: some of them in a row, unless the table ends there. -/
def nearby (size place : Nat) : List Nat :=
  if place + 9 < size then List.range' place 10 else [place]

/-- The first free place of a table from a place on. What is left of the hash leads elsewhere, and
when nothing of it is left, every place of the table is met in turn; `steps` bounds the search. -/
def freePlace (size : Nat) (taken : List Nat) : Nat → Nat → Nat → Nat
  | 0, place, _ => place
  | steps + 1, place, hash =>
    match (nearby size place).find? (!taken.contains ·) with
    | some free => free
    | none =>
      let hash := hash / 32
      freePlace size taken steps ((place * 5 + 1 + hash) % size) hash

def placeOf (size : Nat) (taken : List Nat) (hash : Int) : Nat :=
  let bits := (hash % ↑(twoPow 64)).toNat
  freePlace size taken (size + 14) (bits % size) bits

/-- The places of hashes that come one after another. -/
def places (size : Nat) (taken : List Nat) : List Int → List Nat
  | [] => []
  | hash :: rest =>
    let place := placeOf size taken hash
    place :: places size (place :: taken) rest

/-- The members of a set in the order in which it gives them. -/
def arranged (members : List Datum) : List Datum :=
  match members.mapM hash? with
  | some hashes =>
    let placed := (places (tableSize members.length) [] hashes).zip members
    (placed.mergeSort fun a b => a.1 ≤ b.1).map Prod.snd
  | none => members

end StyleUsage.Datum
