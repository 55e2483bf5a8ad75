import StyleUsage.Decimal.Double
import StyleUsage.Text.Digits

/-!
# Reading decimal numerals

A numeral is digits with at most one point among them, then an exponent if there is one; or one of
the words for infinity and for no number.
-/

namespace StyleUsage.Decimal

open Text (digitsValue splitSign)

/-- The exponent at the end of a numeral. -/
def readExponent? : List Char → Option Int
  | [] => some 0
  | e :: rest =>
    let (negative, digits) := splitSign rest
    if (e == 'e' || e == 'E') && !digits.isEmpty && digits.all Char.isDigit then
      let n : Int := digitsValue digits
      some (if negative then -n else n)
    else none

/-- The double that a numeral without a sign stands for. -/
def readDigits? (negative : Bool) (cs : List Char) : Option Double :=
  let whole := cs.takeWhile Char.isDigit
  let rest := cs.dropWhile Char.isDigit
  let (fraction, rest) := match rest with
    | '.' :: rest => (rest.takeWhile Char.isDigit, rest.dropWhile Char.isDigit)
    | rest => ([], rest)
  let digits := whole ++ fraction
  if digits.isEmpty then none
  else (readExponent? rest).map fun power =>
    .ofDecimal negative (digitsValue digits) (power - fraction.length)

def infinityWords : List String := ["inf", "infinity"]

/-- The double nearest to what a numeral says. -/
def Double.read? (cs : List Char) : Option Double :=
  let (negative, body) := splitSign cs
  let word := String.ofList (body.map Char.toLower)
  if infinityWords.contains word then some (.infinity negative)
  else if word == "nan" then some .nan
  else readDigits? negative body

/-- The number with the other sign. -/
def Double.negate : Double → Double
  | .finite negative m q => .finite (!negative) m q
  | .infinity negative => .infinity (!negative)
  | .nan => .nan

/-- The double nearest to a sum. -/
def Double.plus (x y : Double) : Double :=
  match x.toFraction?, y.toFraction? with
  | some (a, b), some (c, d) => .ofSignedFraction (a * d + c * b) (b * d)
  | none, _ => x
  | _, none => y

/-- The double nearest to a whole multiple. -/
def Double.times (x : Double) (n : Nat) : Double :=
  match x.toFraction? with
  | some (a, b) => .ofSignedFraction (a * n) b
  | none => x

end StyleUsage.Decimal
