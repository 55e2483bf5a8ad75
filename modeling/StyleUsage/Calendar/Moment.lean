import StyleUsage.Text.Digits

/-!
# Days and moments

The calendar tells how long months are, which years have a day more, and the number of a day.
A moment is a day, or a day with a time; a time may have an offset from universal time. Days are
compared with days, times without an offset with one another, and times with an offset by the
instants that they name.
-/

namespace StyleUsage

namespace Calendar

/-- Whether a year has a day more than others. -/
def isLeap (year : Nat) : Bool :=
  year % 4 == 0 && (year % 100 != 0 || year % 400 == 0)

def daysOf (year month : Nat) : Nat :=
  if month == 2 then (if isLeap year then 29 else 28)
  else if [4, 6, 9, 11].contains month then 30
  else 31

/-- The number of days before a year, from the first day of year one on. -/
def daysBefore (year : Nat) : Nat :=
  let past := year - 1
  365 * past + past / 4 - past / 100 + past / 400

/-- The number of a day; the first day of year one has number one. -/
def dayNumber (year month day : Nat) : Nat :=
  let months := (List.range (month - 1)).map fun n => daysOf year (n + 1)
  daysBefore year + months.foldl (· + ·) 0 + day

end Calendar

open Text (padded)

/-- A day and, if there is one, a time. -/
structure Moment where
  year : Nat
  month : Nat
  day : Nat
  time : Option (Nat × Nat × Nat)
  /-- The fraction of the second, in millionths. -/
  micros : Nat
  /-- The offset from universal time in minutes. -/
  offset : Option Int
  deriving DecidableEq, Repr, Inhabited

namespace Moment

/-! ## Texts -/

def dayMinutes : Int := 1440

/-- A span of time in days and seconds, the seconds never negative. -/
def spanText (minutes : Int) : String :=
  let days := Int.fdiv minutes dayMinutes
  let seconds := Int.fmod minutes dayMinutes * 60
  let parts := (if days = 0 then [] else ["days=" ++ toString days]) ++
    (if seconds = 0 then [] else ["seconds=" ++ toString seconds])
  "datetime.timedelta(" ++ (if parts.isEmpty then "0" else ", ".intercalate parts) ++ ")"

/-- The day in the form `2020-01-02`. -/
def dayText (m : Moment) : List Char :=
  padded 4 m.year ++ '-' :: padded 2 m.month ++ '-' :: padded 2 m.day

/-- The offset in the form `+01:30`. -/
def offsetText (minutes : Int) : List Char :=
  (if minutes < 0 then '-' else '+') :: padded 2 (minutes.natAbs / 60) ++
    ':' :: padded 2 (minutes.natAbs % 60)

/-- The text of a moment on its own. -/
def display (m : Moment) : String :=
  match m.time with
  | none => String.ofList m.dayText
  | some (hour, minute, second) =>
    let fraction := if m.micros = 0 then [] else '.' :: padded 6 m.micros
    let offset := (m.offset.map offsetText).getD []
    String.ofList (m.dayText ++ ' ' :: padded 2 hour ++ ':' :: padded 2 minute ++
      ':' :: padded 2 second ++ fraction ++ offset)

/-- The text of an offset inside the inner text of a moment. -/
def zoneText (minutes : Int) : String :=
  if minutes = 0 then "datetime.timezone.utc"
  else "datetime.timezone(" ++ spanText minutes ++ ")"

/-- The text of a moment inside a list or a mapping. -/
def inner (m : Moment) : String :=
  let day := [m.year, m.month, m.day].map toString
  match m.time with
  | none => "datetime.date(" ++ ", ".intercalate day ++ ")"
  | some (hour, minute, second) =>
    let fine :=
      if m.micros ≠ 0 then [second, m.micros]
      else if second ≠ 0 then [second]
      else []
    let zone := m.offset.toList.map fun o => "tzinfo=" ++ zoneText o
    "datetime.datetime(" ++ ", ".intercalate (day ++ ([hour, minute] ++ fine).map toString ++ zone)
      ++ ")"

/-! ## Comparing -/

/-- What kinds of moments there are; moments of different kinds are not compared. -/
inductive Kind where
  | day
  | localTime
  | instant
  deriving DecidableEq, Repr

def kind (m : Moment) : Kind :=
  match m.time, m.offset with
  | none, _ => .day
  | some _, none => .localTime
  | some _, some _ => .instant

/-- The millionths of a second up to a moment, its offset taken off. -/
def position (m : Moment) : Int :=
  let (hour, minute, second) := m.time.getD (0, 0, 0)
  let minutes : Int := ((Calendar.dayNumber m.year m.month m.day * 24 + hour) * 60 + minute : Nat)
  ((minutes - m.offset.getD 0) * 60 + second) * 1000000 + m.micros

def same (m n : Moment) : Bool := m.kind == n.kind && m.position == n.position

end Moment

end StyleUsage
