import StyleUsage.Decimal.Reader
import StyleUsage.Text.Basic
import StyleUsage.Text.Lowercase
import StyleUsage.Text.Quoted
import StyleUsage.Yaml.Error

/-!
# Numbers of a YAML document

The value of a scalar that is a number. Underscores mean nothing; whole numbers may be binary,
octal, decimal or hexadecimal; and parts with colons between them are digits of base sixty.
-/

namespace StyleUsage.Yaml

open Decimal (Double)
open Text (splitSign)

/-! ## Whole numbers -/

def baseMark (base : Nat) : Char :=
  if base = 2 then 'b' else if base = 8 then 'o' else 'x'

/-- The rest after the mark of a base, if it is there. -/
def dropMark (base : Nat) (cs : List Char) : List Char :=
  match cs with
  | '0' :: m :: rest => if base ≠ 10 ∧ m.toLower = baseMark base then rest else cs
  | cs => cs

/-- The whole number that a text stands for in a base. -/
def wholeNumber (base : Nat) (cs : List Char) : Except YamlError Int :=
  let (negative, body) := splitSign ((Text.stripChars cs).map Text.plainDigit)
  match Text.numberIn? base (dropMark base body) with
  | some n => .ok (if negative then -(n : Int) else n)
  | none =>
    .error (.outOfRange ("invalid literal for int() with base " ++ toString base ++ ": " ++
      Text.quoted (String.ofList cs)))

def sixtiesInt (parts : List (List Char)) : Except YamlError Int :=
  parts.foldlM (fun n part => (wholeNumber 10 part).map fun d => n * 60 + d) 0

/-- The value of a scalar that is a whole number. -/
def readInt (text : String) : Except YamlError Int := do
  let (negative, body) := splitSign (text.toList.filter (· != '_'))
  let n ← match body with
    | [] => .error .emptyNumber
    | ['0'] => .ok 0
    | '0' :: 'b' :: rest => wholeNumber 2 rest
    | '0' :: 'x' :: rest => wholeNumber 16 rest
    | '0' :: _ => wholeNumber 8 body
    | _ => if body.contains ':' then sixtiesInt (Text.parts ':' body) else wholeNumber 10 body
  .ok (if negative then -n else n)

/-! ## Numbers with a fraction part -/

/-- The double that a text stands for. -/
def decimalNumber (cs : List Char) : Except YamlError Double :=
  match Double.read? ((Text.stripChars cs).map Text.plainDigit) with
  | some x => .ok x
  | none =>
    .error (.outOfRange ("could not convert string to float: " ++
      Text.quoted (String.ofList cs)))

/-- The sum of digits of base sixty, the last digit first, from the place with the given weight
on. -/
def sixtiesSum (weight : Nat) (sum : Double) : List Double → Double
  | [] => sum
  | d :: rest => sixtiesSum (weight * 60) (sum.plus (d.times weight)) rest

/-- The value of a scalar that is a number with a fraction part. -/
def readFloat (text : String) : Except YamlError Double := do
  let digits := Text.lower (text.toList.filter (· != '_'))
  if digits.isEmpty then throw .emptyNumber
  let (negative, body) := splitSign digits
  let x ←
    if body = ".inf".toList then .ok (.infinity false)
    else if body = ".nan".toList then .ok .nan
    else if body.contains ':' then do
      let parts ← (Text.parts ':' body).mapM decimalNumber
      .ok (sixtiesSum 1 (.zero false) parts.reverse)
    else decimalNumber body
  .ok (if negative then x.negate else x)

end StyleUsage.Yaml
