import StyleUsage.Calendar.Moment
import StyleUsage.Yaml.Error

/-!
# Moments of a YAML document

A day may be followed by a time, and a time by an offset from universal time.
-/

namespace StyleUsage.Yaml

open Text (digitsValue)

/-- A text without the line feed at its end, if there is one. -/
def dropLastBreak (cs : List Char) : List Char :=
  if cs.getLast? = some '\n' then cs.dropLast else cs

/-- Between `least` and `most` digits, as many as there are. -/
def someDigits? (least most : Nat) (cs : List Char) : Option (Nat × List Char) :=
  let ds := (cs.take most).takeWhile Char.isDigit
  if ds.length < least then none else some (digitsValue ds, cs.drop ds.length)

def after? (c : Char) : List Char → Option (List Char)
  | d :: rest => if c = d then some rest else none
  | [] => none

/-- Whether a character is a space or a tab. -/
def isGap (c : Char) : Bool := c == ' ' || c == '\t'

/-- The offset at the end of a time. -/
def readOffset? (cs : List Char) : Option (Option Int) :=
  match cs with
  | [] => some none
  | _ =>
    match cs.dropWhile isGap with
    | ['Z'] => some (some 0)
    | sign :: rest =>
      if sign == '+' || sign == '-' then do
        let (hours, rest) ← someDigits? 1 2 rest
        let minutes ← match rest with
          | [] => some 0
          | ':' :: rest => do
            let (m, rest) ← someDigits? 2 2 rest
            if rest.isEmpty then some m else none
          | _ => none
        let total : Int := Int.ofNat (hours * 60 + minutes)
        some (some (if sign == '-' then -total else total))
      else none
    | [] => none

/-- The moment that a text stands for. If `strict` is true, month and day may have one digit only if
a time follows. -/
def readMoment? (strict : Bool) (cs : List Char) : Option Moment := do
  let (year, rest) ← someDigits? 4 4 cs
  let rest ← after? '-' rest
  let monthText := rest.takeWhile Char.isDigit
  let (month, rest) ← someDigits? 1 2 rest
  let rest ← after? '-' rest
  let dayText := rest.takeWhile Char.isDigit
  let (day, rest) ← someDigits? 1 2 rest
  match rest with
  | [] =>
    if !strict || (monthText.length == 2 && dayText.length == 2) then
      some ⟨year, month, day, none, 0, none⟩
    else none
  | c :: more =>
    let rest ←
      if c == 'T' || c == 't' then some more
      else if isGap c then some (more.dropWhile isGap)
      else none
    let (hour, rest) ← someDigits? 1 2 rest
    let rest ← after? ':' rest
    let (minute, rest) ← someDigits? 2 2 rest
    let rest ← after? ':' rest
    let (second, rest) ← someDigits? 2 2 rest
    let (fraction, rest) := match rest with
      | '.' :: rest => (rest.takeWhile Char.isDigit, rest.dropWhile Char.isDigit)
      | rest => ([], rest)
    let offset ← readOffset? rest
    let six := fraction.take 6
    let micros := digitsValue (six ++ List.replicate (6 - six.length) '0')
    some ⟨year, month, day, some (hour, minute, second), micros, offset⟩

/-- The first part that is out of its range. -/
def momentFault? (m : Moment) : Option YamlError :=
  let offsetFault := m.offset.filter fun o => Moment.dayMinutes ≤ o.natAbs
  match offsetFault with
  | some o =>
    some (.outOfRange ("offset must be a timedelta strictly between -timedelta(hours=24) and " ++
      "timedelta(hours=24), not " ++ Moment.spanText o ++ "."))
  | none =>
    let (hour, minute, second) := m.time.getD (0, 0, 0)
    if m.year = 0 then some (.outOfRange "year 0 is out of range")
    else if m.month < 1 ∨ 12 < m.month then some (.outOfRange "month must be in 1..12")
    else if m.day < 1 ∨ Calendar.daysOf m.year m.month < m.day then
      some (.outOfRange "day is out of range for month")
    else if 23 < hour then some (.outOfRange "hour must be in 0..23")
    else if 59 < minute then some (.outOfRange "minute must be in 0..59")
    else if 59 < second then some (.outOfRange "second must be in 0..59")
    else none

/-- The moment that a text names, if all its parts are in their ranges. A line feed at its end does
not matter. -/
def readMoment (text : String) : Except YamlError Moment :=
  match readMoment? false (dropLastBreak text.toList) with
  | none => .error .noMoment
  | some m =>
    match momentFault? m with
    | some e => .error e
    | none => .ok m

end StyleUsage.Yaml
