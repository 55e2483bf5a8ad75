import StyleUsage.Decimal.Double

/-!
# Numbers of both kinds

Whole numbers and doubles are compared by their values, exactly.
-/

namespace StyleUsage.Decimal

/-- A whole number or a double. -/
abbrev Number := Int ⊕ Double

namespace Number

/-- A finite number as a signed numerator and a denominator. -/
def toFraction? : Number → Option (Int × Nat)
  | .inl i => some (i, 1)
  | .inr x => x.toFraction?

def same : Number → Number → Bool
  | .inl a, .inl b => a == b
  | .inl a, .inr y => y.equalsInt a
  | .inr x, .inl b => x.equalsInt b
  | .inr x, .inr y => x.sameNumber y

/-- Whether one number is less than another; `nan` is less than none, and none is less than it. -/
def less (a b : Number) : Bool :=
  match a.toFraction?, b.toFraction? with
  | some (m, d), some (n, e) => m * e < n * d
  | _, _ =>
    match a, b with
    | .inr .nan, _ | _, .inr .nan => false
    | .inr (.infinity true), other => other != .inr (.infinity true)
    | other, .inr (.infinity false) => other != .inr (.infinity false)
    | _, _ => false

end Number

end StyleUsage.Decimal
