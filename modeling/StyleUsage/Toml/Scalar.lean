import StyleUsage.Calendar.Moment
import StyleUsage.Decimal.Reader
import StyleUsage.Toml.Value

/-!
# Scalars of a TOML document

The texts, numbers, truth values, dates and times of a document. Each reader returns the rest of
the text after what it has read. Lines end with a line feed.
-/

namespace StyleUsage.Toml

open Decimal (Double)
open Text (hexValue? digitsValue splitSign)

/-- Whether a character is a space or a tab. -/
def isBlank (c : Char) : Bool := c == ' ' || c == '\t'

/-- Whether a character is a space, a tab or a line feed. -/
def isGap (c : Char) : Bool := isBlank c || c == '\n'

/-- Whether a character may not stand on a line. -/
def isControl (c : Char) : Bool := (c.toNat < 32 && c != '\t') || c == '\x7f'

/-! ## Texts -/

def shortEscape? : Char → Option Char
  | 'b' => some '\x08'
  | 't' => some '\t'
  | 'n' => some '\n'
  | 'f' => some '\x0c'
  | 'r' => some '\r'
  | '"' => some '"'
  | '\\' => some '\\'
  | _ => none

/-- The character whose number is written with `width` hexadecimal digits. -/
def numberedChar (width : Nat) (cs : List Char) : Except TomlError (Char × List Char) :=
  let digits := cs.take width
  match Text.numberIn? 16 digits with
  | some n =>
    if digits.length = width ∧ n.isValidChar then .ok (.ofNat n, cs.drop width)
    else .error .badEscape
  | none => .error .badEscape

/-- The character of an escape, after its backslash. -/
def escapedChar : List Char → Except TomlError (Char × List Char)
  | 'u' :: rest => numberedChar 4 rest
  | 'U' :: rest => numberedChar 8 rest
  | c :: rest =>
    match shortEscape? c with
    | some e => .ok (e, rest)
    | none => .error .badEscape
  | [] => .error .badEscape

/-- The rest after a backslash at the end of a line, if that is what the text starts with: the
line end is skipped with all gaps after it. -/
def skipLineEnd? (cs : List Char) : Option (Except TomlError (List Char)) :=
  if cs.head?.any isGap then
    match cs.dropWhile isBlank with
    | [] => some (.ok [])
    | '\n' :: rest => some (.ok (rest.dropWhile isGap))
    | _ => some (.error .badEscape)
  else none

/-- A text between double quotes on one line, after the first quote; `done` are the characters
read so far, the last one first. -/
def basicLine (done : List Char) : Nat → List Char → Except TomlError (String × List Char)
  | 0, _ => .error .unterminatedText
  | _, [] => .error .unterminatedText
  | fuel + 1, c :: rest =>
    if c = '"' then .ok (.ofList done.reverse, rest)
    else if c = '\\' then do
      let (e, rest) ← escapedChar rest
      basicLine (e :: done) fuel rest
    else if isControl c then .error (.controlCharacter c)
    else basicLine (c :: done) fuel rest

/-- At most two quotes at the end of a text of several lines, which belong to the text. -/
def lastQuotes (quote : Char) (done : List Char) : List Char → String × List Char
  | a :: b :: rest =>
    if a = quote then
      if b = quote then (.ofList (quote :: quote :: done).reverse, rest)
      else (.ofList (quote :: done).reverse, b :: rest)
    else (.ofList done.reverse, a :: b :: rest)
  | [a] => if a = quote then (.ofList (quote :: done).reverse, []) else (.ofList done.reverse, [a])
  | [] => (.ofList done.reverse, [])

/-- A text between three double quotes, after the first three; `done` are the characters read so
far, the last one first. -/
def basicLines (done : List Char) : Nat → List Char → Except TomlError (String × List Char)
  | 0, _ => .error .unterminatedText
  | _, [] => .error .unterminatedText
  | _, '"' :: '"' :: '"' :: rest => .ok (lastQuotes '"' done rest)
  | fuel + 1, c :: rest =>
    if c = '\\' then
      match skipLineEnd? rest with
      | some (.ok rest) => basicLines done fuel rest
      | some (.error e) => .error e
      | none => do
        let (e, rest) ← escapedChar rest
        basicLines (e :: done) fuel rest
    else if isControl c && c != '\n' then .error (.controlCharacter c)
    else basicLines (c :: done) fuel rest

/-- A text between single quotes on one line, after the first quote. -/
def literalLine (done : List Char) : List Char → Except TomlError (String × List Char)
  | [] => .error .unterminatedText
  | c :: rest =>
    if c = '\'' then .ok (.ofList done.reverse, rest)
    else if isControl c then .error (.controlCharacter c)
    else literalLine (c :: done) rest

/-- A text between three single quotes, after the first three. -/
def literalLines (done : List Char) : List Char → Except TomlError (String × List Char)
  | [] => .error .unterminatedText
  | '\'' :: '\'' :: '\'' :: rest => .ok (lastQuotes '\'' done rest)
  | c :: rest =>
    if isControl c && c != '\n' then .error (.controlCharacter c)
    else literalLines (c :: done) rest

/-- The rest after a line feed that follows the quotes of a text of several lines. -/
def skipFirstLineEnd : List Char → List Char
  | '\n' :: rest => rest
  | cs => cs

/-- A text in one of the four forms, if one starts here. -/
def readText? (cs : List Char) : Option (Except TomlError (String × List Char)) :=
  match cs with
  | '"' :: '"' :: '"' :: rest => some (basicLines [] (cs.length) (skipFirstLineEnd rest))
  | '"' :: rest => some (basicLine [] cs.length rest)
  | '\'' :: '\'' :: '\'' :: rest => some (literalLines [] (skipFirstLineEnd rest))
  | '\'' :: rest => some (literalLine [] rest)
  | _ => none

/-! ## Numbers -/

/-- The digits at the start; an underscore may stand between two of them. -/
def digitRun (isDigit : Char → Bool) : List Char → List Char × List Char
  | '_' :: c :: rest =>
    if isDigit c then
      let (ds, rest) := digitRun isDigit rest
      (c :: ds, rest)
    else ([], '_' :: c :: rest)
  | c :: rest =>
    if isDigit c then
      let (ds, rest) := digitRun isDigit rest
      (c :: ds, rest)
    else ([], c :: rest)
  | [] => ([], [])

/-- A row of digits, none if the text does not start with a digit. -/
def digits (isDigit : Char → Bool) (cs : List Char) : List Char × List Char :=
  if cs.head?.any isDigit then digitRun isDigit cs else ([], cs)

/-- The base that a letter after a zero stands for. -/
def baseOf? : Char → Option Nat
  | 'x' => some 16
  | 'o' => some 8
  | 'b' => some 2
  | _ => none

/-- A number in base sixteen, eight or two. -/
def basedInt? (cs : List Char) : Option (Int × List Char) :=
  match cs with
  | '0' :: letter :: rest => do
    let base ← baseOf? letter
    let (ds, rest) := digits (fun c => (hexValue? c).any (· < base)) rest
    let n ← Text.numberIn? base ds
    some (n, rest)
  | _ => none

/-- The fraction part after a whole part. -/
def fraction (cs : List Char) : List Char × List Char :=
  match cs with
  | '.' :: rest =>
    match digits Char.isDigit rest with
    | ([], _) => ([], cs)
    | (ds, rest) => ('.' :: ds, rest)
  | _ => ([], cs)

/-- The exponent part after a number. -/
def exponent (cs : List Char) : List Char × List Char :=
  match cs with
  | e :: rest =>
    if e = 'e' ∨ e = 'E' then
      let (negative, after) := splitSign rest
      match digits Char.isDigit after with
      | ([], _) => ([], cs)
      | (ds, rest) => ('e' :: (if negative then '-' :: ds else ds), rest)
    else ([], cs)
  | [] => ([], [])

/-- The whole part of a number: a single zero, or digits that do not start with one. -/
def wholePart (cs : List Char) : List Char × List Char :=
  match cs with
  | '0' :: rest => (['0'], rest)
  | _ => digits Char.isDigit cs

def decimal? (cs : List Char) : Option (Toml × List Char) :=
  let (negative, body) := splitSign cs
  let (whole, rest) := wholePart body
  let (fraction, rest) := fraction rest
  let (exponent, rest) := exponent rest
  if whole.isEmpty then none
  else if fraction.isEmpty && exponent.isEmpty then
    let n : Int := digitsValue whole
    some (.int (if negative then -n else n), rest)
  else
    (Double.read? (whole ++ fraction ++ exponent)).map fun x =>
      (.float (if negative then x.negate else x), rest)

/-- Infinity or no number, with a sign or without. -/
def specialFloat? (cs : List Char) : Option (Toml × List Char) :=
  let (negative, body) := splitSign cs
  match body with
  | 'i' :: 'n' :: 'f' :: rest => some (.float (.infinity negative), rest)
  | 'n' :: 'a' :: 'n' :: rest => some (.float .nan, rest)
  | _ => none

/-- A number, if one starts here. -/
def readNumber? (cs : List Char) : Option (Toml × List Char) :=
  match basedInt? cs with
  | some (i, rest) => some (.int i, rest)
  | none => (decimal? cs).or (specialFloat? cs)

/-! ## Dates and times -/

def twoDigits? (least most : Nat) (cs : List Char) : Option (Nat × List Char) :=
  match cs with
  | a :: b :: rest =>
    let n := digitsValue [a, b]
    if a.isDigit && b.isDigit && least ≤ n && n ≤ most then some (n, rest) else none
  | _ => none

def after? (c : Char) : List Char → Option (List Char)
  | d :: rest => if c = d then some rest else none
  | [] => none

def afterTime? (cs : List Char) : Option (List Char) := do
  let (_, rest) ← twoDigits? 0 23 cs
  let rest ← after? ':' rest
  let (_, rest) ← twoDigits? 0 59 rest
  let rest ← after? ':' rest
  let (_, rest) ← twoDigits? 0 59 rest
  match rest with
  | '.' :: d :: more => some (if d.isDigit then more.dropWhile Char.isDigit else rest)
  | _ => some rest

/-- The rest after an offset from universal time, if one follows. -/
def afterOffset (cs : List Char) : List Char :=
  match cs with
  | [] => []
  | c :: rest =>
    if c = 'Z' ∨ c = 'z' then rest
    else if c = '+' ∨ c = '-' then
      let offset? : Option (List Char) := do
        let (_, rest) ← twoDigits? 0 23 rest
        let rest ← after? ':' rest
        let (_, rest) ← twoDigits? 0 59 rest
        some rest
      offset?.getD cs
    else cs

/-- The rest after a time and its offset, if they follow a date. -/
def afterDatedTime (cs : List Char) : List Char :=
  match cs with
  | c :: rest =>
    if c = 'T' ∨ c = 't' ∨ c = ' ' then ((afterTime? rest).map afterOffset).getD cs else cs
  | [] => []

/-- A year, a month and a day, and the rest. -/
def date? (cs : List Char) : Option ((Nat × Nat × Nat) × List Char) := do
  let (century, rest) ← twoDigits? 0 99 cs
  let (year, rest) ← twoDigits? 0 99 rest
  let rest ← after? '-' rest
  let (month, rest) ← twoDigits? 1 12 rest
  let rest ← after? '-' rest
  let (day, rest) ← twoDigits? 1 31 rest
  some ((century * 100 + year, month, day), rest)

/-- What stands in front of a rest. -/
def written (cs rest : List Char) : Toml :=
  .moment (.ofList (cs.take (cs.length - rest.length)))

/-- A date or a time, if one starts here. -/
def readMoment? (cs : List Char) : Option (Except TomlError (Toml × List Char)) :=
  match date? cs with
  | some ((year, month, day), rest) =>
    let rest := afterDatedTime rest
    if 1 ≤ year ∧ day ≤ Calendar.daysOf year month then some (.ok (written cs rest, rest))
    else some (.error .badDate)
  | none => (afterTime? cs).map fun rest => .ok (written cs rest, rest)

end StyleUsage.Toml
