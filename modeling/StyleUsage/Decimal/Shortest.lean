import StyleUsage.Decimal.Double

/-!
# The shortest decimal that reads back

A finite double is written with the fewest decimal digits that still read back as the same
double; among those the decimal nearest to the double is taken. `Layout` says how the digits
are laid out as text, and `Layout.plain` is the layout of this library.
-/

namespace StyleUsage.Decimal

/-- A positive decimal number `digits * 10 ^ power`. -/
structure Scientific where
  digits : Nat
  power : Int
  deriving DecidableEq, Repr, Inhabited

/-- The decimals that read back as one positive double: the numbers between `low / scale` and
`high / scale` around `value / scale`, the ends included if `closed`. -/
structure ReadBack where
  low : Nat
  value : Nat
  high : Nat
  scale : Nat
  closed : Bool

namespace ReadBack

/-- The decimals that read back as `m * 2 ^ q`. Below a power of two the gap to the next smaller
double is half as wide. -/
def ofDouble (m : Nat) (q : Int) : ReadBack :=
  let narrow := m == twoPow 52 && q != Double.leastExponent
  let unit := scaleTwo 1 1 (q - 2)
  { low := (4 * m - if narrow then 1 else 2) * unit.1
    value := 4 * m * unit.1
    high := (4 * m + 2) * unit.1
    scale := unit.2
    closed := m % 2 == 0 }

/-- Whether `digits * num / den` lies in the interval. -/
def holds (r : ReadBack) (digits num den : Nat) : Bool :=
  let x := digits * num * r.scale
  if r.closed then r.low * den ≤ x && x ≤ r.high * den
  else r.low * den < x && x < r.high * den

/-- The best decimal on the grid of multiples of `10 ^ power`: of the two neighbours of the value
the one that lies in the interval, and of two such the nearer, or the even one. -/
def onGrid? (r : ReadBack) (power : Int) : Option Scientific :=
  let (num, den) := match power with
    | .ofNat k => (tenPow k, 1)
    | .negSucc k => (1, tenPow (k + 1))
  let below := r.value * den / (r.scale * num)
  let rest := r.value * den % (r.scale * num)
  let takeBelow := r.holds below num den
  let takeAbove := r.holds (below + 1) num den
  if takeBelow && takeAbove then
    let twice := 2 * rest
    let step := r.scale * num
    if twice < step || (twice == step && below % 2 == 0) then some ⟨below, power⟩
    else some ⟨below + 1, power⟩
  else if takeBelow then some ⟨below, power⟩
  else if takeAbove then some ⟨below + 1, power⟩
  else none

/-- The power of ten just above the value: the least `k` with `value < 10 ^ k`, searched from
`start` upwards. -/
def topPower (r : ReadBack) (start : Int) : Nat → Int
  | 0 => start
  | fuel + 1 =>
    let above := match start with
      | .ofNat k => decide (r.value < r.scale * tenPow k)
      | .negSucc k => decide (r.value * tenPow (k + 1) < r.scale)
    if above then start else topPower r (start + 1) fuel

/-- The first grid with a hit, from `count` digits on. -/
def firstHit (r : ReadBack) (top : Int) (count : Nat) : Nat → Option Scientific
  | 0 => none
  | fuel + 1 =>
    match r.onGrid? (top - count) with
    | some s => some s
    | none => firstHit r top (count + 1) fuel

end ReadBack

/-- Take the zeros off the end of the digits. -/
def Scientific.trim (s : Scientific) : Nat → Scientific
  | 0 => s
  | fuel + 1 =>
    if s.digits ≠ 0 ∧ s.digits % 10 = 0 then trim ⟨s.digits / 10, s.power + 1⟩ fuel else s

/-- The shortest decimal that reads back as the positive double `m * 2 ^ q`. -/
def shortest (m : Nat) (q : Int) : Scientific :=
  let r := ReadBack.ofDouble m q
  -- a bound from below for the power: a bit is worth more than three tenths of a digit
  let bits : Int := (Nat.log2 m : Int) + q
  let top := r.topPower (Int.fdiv (bits * 30103) 100000) 4
  ((r.firstHit top 1 17).getD ⟨0, 0⟩).trim 20

/-- How the digits of a number are laid out. -/
structure Layout where
  /-- The least decimal exponent that is written without an exponent part. -/
  leastPlain : Int
  /-- The first decimal exponent that is written with an exponent part again. -/
  firstLarge : Int
  /-- The least number of digits of an exponent. -/
  exponentWidth : Nat
  /-- Whether a point and a zero stand between a single digit and an exponent part. -/
  pointBeforeExponent : Bool
  infinity : String
  nan : String

/-- Exponents from -4 to 15 are written out, an exponent part has a sign and two digits. -/
def Layout.plain : Layout where
  leastPlain := -4
  firstLarge := 16
  exponentWidth := 2
  pointBeforeExponent := false
  infinity := "inf"
  nan := "nan"

/-- The digits with a point after `whole` of them, and zeros where digits are missing. -/
def pointAt (ds : List Char) (whole : Int) : List Char :=
  if whole ≤ 0 then
    '0' :: '.' :: List.replicate (-whole).toNat '0' ++ ds
  else
    let n := whole.toNat
    if ds.length ≤ n then ds ++ List.replicate (n - ds.length) '0' ++ ['.', '0']
    else ds.take n ++ '.' :: ds.drop n

/-- The text of a positive decimal number. -/
def Layout.scientific (n : Layout) (s : Scientific) : List Char :=
  let ds := Nat.toDigits 10 s.digits
  let exponent : Int := s.power + ds.length - 1
  if n.leastPlain ≤ exponent && exponent < n.firstLarge then pointAt ds (exponent + 1)
  else
    let lead := match ds with
      | [] => []
      | [d] => if n.pointBeforeExponent then [d, '.', '0'] else [d]
      | d :: rest => d :: '.' :: rest
    let digits := Nat.toDigits 10 exponent.natAbs
    let pad := List.replicate (n.exponentWidth - digits.length) '0'
    lead ++ 'e' :: (if exponent < 0 then '-' else '+') :: pad ++ digits

def Layout.write (n : Layout) : Double → String
  | .nan => n.nan
  | .infinity negative => (if negative then "-" else "") ++ n.infinity
  | .finite negative m q =>
    let body := if m = 0 then ['0', '.', '0'] else n.scientific (shortest m q)
    String.ofList (if negative then '-' :: body else body)

/-- The shortest text of a double in the layout of this library. -/
def Double.text (x : Double) : String := Layout.plain.write x

end StyleUsage.Decimal
