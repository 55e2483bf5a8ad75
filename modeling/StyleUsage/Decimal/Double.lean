/-!
# Numbers in double precision

A finite double is a whole number below `2 ^ 53` times a power of two. A fraction becomes the
nearest double, and of two equally near ones the one with an even mantissa; what lies beyond the
largest double becomes an infinity. All arithmetic is exact arithmetic on natural numbers.
-/

namespace StyleUsage.Decimal

/-- A number in double precision: `mantissa * 2 ^ exponent` with a sign, an infinity, or no
number at all. -/
inductive Double where
  | finite (negative : Bool) (mantissa : Nat) (exponent : Int)
  | infinity (negative : Bool)
  | nan
  deriving DecidableEq, Repr, Inhabited

/-- The quotient of two natural numbers, rounded to the nearest whole number; a half goes to the
even neighbour. -/
def divNearest (num den : Nat) : Nat :=
  let q := num / den
  let twice := 2 * (num % den)
  if twice < den then q
  else if den < twice then q + 1
  else if q % 2 = 0 then q else q + 1

def twoPow (n : Nat) : Nat := Nat.pow 2 n

def tenPow (n : Nat) : Nat := Nat.pow 10 n

/-- A fraction times a power of two, as a fraction. -/
def scaleTwo (num den : Nat) (power : Int) : Nat × Nat :=
  match power with
  | .ofNat k => (num * twoPow k, den)
  | .negSucc k => (num, den * twoPow (k + 1))

namespace Double

def leastExponent : Int := -1074

def greatestExponent : Int := 971

/-- Zero, with a sign. -/
def zero (negative : Bool) : Double := .finite negative 0 leastExponent

/-- The exponent at which a positive fraction has a mantissa of 53 bits, or the least exponent if
the fraction is smaller than that. -/
def exponentFor (num den : Nat) : Int :=
  let guess : Int := (Nat.log2 num : Int) - (Nat.log2 den : Int) - 53
  let scaled := scaleTwo num den (-guess)
  let fitting := if scaled.2 * twoPow 53 ≤ scaled.1 then guess + 1 else guess
  max leastExponent fitting

def ofFraction (negative : Bool) (num den : Nat) : Double :=
  if num = 0 then zero negative
  else
    let q := exponentFor num den
    let scaled := scaleTwo num den (-q)
    let m := divNearest scaled.1 scaled.2
    let (m, q) := if m = twoPow 53 then (twoPow 52, q + 1) else (m, q)
    if greatestExponent < q then .infinity negative else .finite negative m q

/-- The number of decimal digits of a natural number. -/
def digitCount (n : Nat) : Nat := (Nat.toDigits 10 n).length

/-- The double nearest to `digits * 10 ^ power`. -/
def ofDecimal (negative : Bool) (digits : Nat) (power : Int) : Double :=
  if digits = 0 then zero negative
  else
    -- ten to the power `top` is the first power of ten above the number
    let top := power + (digitCount digits : Int)
    if 400 < top then .infinity negative
    else if top < -400 then zero negative
    else match power with
      | .ofNat k => ofFraction negative (digits * tenPow k) 1
      | .negSucc k => ofFraction negative digits (tenPow (k + 1))

/-- Whether the number is a zero of either sign. -/
def isZero : Double → Bool
  | .finite _ m _ => m == 0
  | _ => false

/-- A finite number as a signed numerator and a denominator. -/
def toFraction? : Double → Option (Int × Nat)
  | .finite negative m q =>
    let scaled := scaleTwo m 1 q
    some (if negative then -(scaled.1 : Int) else (scaled.1 : Int), scaled.2)
  | _ => none

def ofSignedFraction (num : Int) (den : Nat) : Double :=
  ofFraction (num < 0) num.natAbs den

/-- Whether two numbers are equal as numbers: zeros of both signs are, and no number equals
`nan`. -/
def sameNumber (x y : Double) : Bool :=
  match x, y with
  | .infinity a, .infinity b => a == b
  | .nan, _ | _, .nan => false
  | _, _ =>
    match x.toFraction?, y.toFraction? with
    | some (a, b), some (c, d) => a * d == c * b
    | _, _ => false

/-- Whether the number equals a whole number. -/
def equalsInt (x : Double) (i : Int) : Bool :=
  match x.toFraction? with
  | some (num, den) => num == i * den
  | none => false

end Double

end StyleUsage.Decimal
