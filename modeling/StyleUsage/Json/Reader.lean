import StyleUsage.Json.Value
import StyleUsage.Text.Digits

/-!
# Reading JSON text

The reader goes over the characters from left to right. Each of its steps returns what is left of
the text, or a cause with the number of characters that were left where it arose. A repeated key
of an object keeps its first place and takes its last value. Beside the standard forms `NaN`,
`Infinity` and `-Infinity` are read as numbers. A string with half of a surrogate pair alone, which
could be written nowhere as UTF-8, is refused at once.
-/

namespace StyleUsage.Json

open Decimal (Double)
open Text (hexValue? digitsValue)

/-- Why a text is not JSON. -/
inductive ReadCause where
  | byteOrderMark
  | extraData
  | expectingValue
  | expectingKey
  | expectingColon
  | expectingComma
  | controlCharacter
  | unterminatedString
  | badEscape
  | badNumericEscape
  /-- Half of a pair stands alone, which no text can hold. -/
  | loneHalf
  deriving DecidableEq, Repr

def ReadCause.message : ReadCause → String
  | .byteOrderMark => "Unexpected UTF-8 BOM (decode using utf-8-sig)"
  | .extraData => "Extra data"
  | .expectingValue => "Expecting value"
  | .expectingKey => "Expecting property name enclosed in double quotes"
  | .expectingColon => "Expecting ':' delimiter"
  | .expectingComma => "Expecting ',' delimiter"
  | .controlCharacter => "Invalid control character at"
  | .unterminatedString => "Unterminated string starting at"
  | .badEscape => "Invalid \\escape"
  | .badNumericEscape => "Invalid \\uXXXX escape"
  | .loneHalf => "'utf-8' codec can't encode character: surrogates not allowed"

/-- A cause and the number of characters left where it arose. -/
structure ReadFailure where
  cause : ReadCause
  left : Nat
  deriving DecidableEq, Repr

/-- A cause and its place in a text. -/
structure ReadError where
  cause : ReadCause
  position : Nat
  line : Nat
  column : Nat
  deriving DecidableEq, Repr

/-- The wording of an error, with its place. -/
def ReadError.message (e : ReadError) : String :=
  e.cause.message ++ ": line " ++ toString e.line ++ " column " ++ toString e.column ++
    " (char " ++ toString e.position ++ ")"

/-- The result of a step of the reader: what was read, and the rest of the text. -/
abbrev Step (α : Type) := Except ReadFailure (α × List Char)

def failAt {α : Type} (cause : ReadCause) (rest : List Char) : Step α :=
  .error ⟨cause, rest.length⟩

/-- The blanks between the parts of a text. -/
def isGap (c : Char) : Bool := c == ' ' || c == '\t' || c == '\n' || c == '\r'

/-- The rest after blanks. -/
def skipGap (cs : List Char) : List Char := cs.dropWhile isGap

/-- The number that four hexadecimal digits stand for, and the rest. -/
def fourHex? : List Char → Option (Nat × List Char)
  | a :: b :: c :: d :: rest =>
    match hexValue? a, hexValue? b, hexValue? c, hexValue? d with
    | some a, some b, some c, some d => some (((a * 16 + b) * 16 + c) * 16 + d, rest)
    | _, _, _, _ => none
  | _ => none

/-- The character after a backslash that stands for a fixed one. -/
def simpleEscape? : Char → Option Char
  | '"' => some '"'
  | '\\' => some '\\'
  | '/' => some '/'
  | 'b' => some '\x08'
  | 'f' => some '\x0c'
  | 'n' => some '\n'
  | 'r' => some '\r'
  | 't' => some '\t'
  | _ => none

/-- Whether a number is the first half of a pair. -/
def isHighHalf (n : Nat) : Bool := 0xD800 ≤ n && n < 0xDC00

/-- Whether a number is the second half of a pair. -/
def isLowHalf (n : Nat) : Bool := 0xDC00 ≤ n && n < 0xE000

/-- The characters of a string up to its closing quote. `start` is what was left at the opening
quote, and `done` holds what was read, the last character first. -/
def stringBody (start : List Char) : Nat → List Char → List Char → Step String
  | 0, _, _ => failAt .unterminatedString start
  | _ + 1, _, [] => failAt .unterminatedString start
  | fuel + 1, done, c :: rest =>
    if c = '"' then .ok (String.ofList done.reverse, rest)
    else if c = '\\' then
      match rest with
      | [] => failAt .unterminatedString start
      | 'u' :: digits =>
        -- one character more must follow the digits
        if digits.length ≤ 4 then failAt .badNumericEscape rest
        else match fourHex? digits with
          | none => failAt .badNumericEscape rest
          | some (n, after) =>
            match isHighHalf n, after with
            | true, '\\' :: 'u' :: digits₂ =>
              if digits₂.length ≤ 4 then failAt .badNumericEscape ('u' :: digits₂)
              else match fourHex? digits₂ with
                | none => failAt .badNumericEscape ('u' :: digits₂)
                | some (m, after₂) =>
                  if isLowHalf m then
                    let joined := 0x10000 + (n - 0xD800) * 0x400 + (m - 0xDC00)
                    stringBody start fuel (Char.ofNat joined :: done) after₂
                  else failAt .loneHalf rest
            | _, _ =>
              if isHighHalf n || isLowHalf n then failAt .loneHalf rest
              else stringBody start fuel (Char.ofNat n :: done) after
      | e :: after =>
        match simpleEscape? e with
        | some x => stringBody start fuel (x :: done) after
        | none => failAt .badEscape (c :: rest)
    else if c.toNat < 0x20 then failAt .controlCharacter (c :: rest)
    else stringBody start fuel (c :: done) rest

/-- A string whose opening quote is the first character of `start`. -/
def readString (start : List Char) : Step String :=
  stringBody start start.length [] (start.drop 1)

/-- The decimal digits at the start, and the rest. -/
def takeDigits (cs : List Char) : List Char × List Char :=
  (cs.takeWhile Char.isDigit, cs.dropWhile Char.isDigit)

/-- The digits of a fraction part, if a point and a digit follow. -/
def takeFraction (cs : List Char) : Option (List Char) × List Char :=
  match cs with
  | '.' :: rest =>
    match takeDigits rest with
    | ([], _) => (none, cs)
    | (ds, rest) => (some ds, rest)
  | _ => (none, cs)

/-- The exponent, if one follows with at least one digit. -/
def takeExponent (cs : List Char) : Option Int × List Char :=
  let digits (negative : Bool) (rest : List Char) : Option Int × List Char :=
    match takeDigits rest with
    | ([], _) => (none, cs)
    | (ds, rest) =>
      let n : Int := digitsValue ds
      (some (if negative then -n else n), rest)
  match cs with
  | e :: rest =>
    if e = 'e' || e = 'E' then
      match rest with
      | '-' :: rest => digits true rest
      | '+' :: rest => digits false rest
      | rest => digits false rest
    else (none, cs)
  | [] => (none, cs)

/-- A number after its sign. A number is whole unless it has a fraction part or an exponent. -/
def unsignedNumber (negative : Bool) (start cs : List Char) : Step Json :=
  let whole? : Option (List Char × List Char) :=
    match cs with
    | '0' :: rest => some (['0'], rest)
    | c :: rest => if c.isDigit then some (takeDigits (c :: rest)) else none
    | [] => none
  match whole? with
  | none => failAt .expectingValue start
  | some (whole, rest) =>
    let (fraction, rest) := takeFraction rest
    let (exponent, rest) := takeExponent rest
    match fraction, exponent with
    | none, none =>
      let n : Int := digitsValue whole
      .ok (.int (if negative then -n else n), rest)
    | _, _ =>
      let digits := whole ++ fraction.getD []
      let power : Int := exponent.getD 0 - ((fraction.getD []).length : Int)
      .ok (.float (Double.ofDecimal negative (digitsValue digits) power), rest)

/-- A number or one of the words that stand for one. -/
def readNumber (cs : List Char) : Step Json :=
  match cs with
  | '-' :: 'I' :: 'n' :: 'f' :: 'i' :: 'n' :: 'i' :: 't' :: 'y' :: rest =>
    .ok (.float (.infinity true), rest)
  | 'I' :: 'n' :: 'f' :: 'i' :: 'n' :: 'i' :: 't' :: 'y' :: rest =>
    .ok (.float (.infinity false), rest)
  | 'N' :: 'a' :: 'N' :: rest => .ok (.float .nan, rest)
  | '-' :: rest => unsignedNumber true cs rest
  | _ => unsignedNumber false cs cs

mutual

/-- One value at the start of a text. -/
def readValue : Nat → List Char → Step Json
  | 0, cs => failAt .expectingValue cs
  | fuel + 1, cs =>
    match cs with
    | '"' :: _ => (readString cs).map fun (s, rest) => (.str s, rest)
    | '{' :: rest =>
      match skipGap rest with
      | '}' :: rest => .ok (.obj [], rest)
      | rest => (readFields fuel [] rest).map fun (fs, rest) => (.obj fs, rest)
    | '[' :: rest =>
      match skipGap rest with
      | ']' :: rest => .ok (.arr [], rest)
      | rest => (readItems fuel [] rest).map fun (js, rest) => (.arr js, rest)
    | 'n' :: 'u' :: 'l' :: 'l' :: rest => .ok (.null, rest)
    | 't' :: 'r' :: 'u' :: 'e' :: rest => .ok (.bool true, rest)
    | 'f' :: 'a' :: 'l' :: 's' :: 'e' :: rest => .ok (.bool false, rest)
    | cs => readNumber cs

/-- The items of a list up to its end; `done` holds those read, the last first. -/
def readItems : Nat → List Json → List Char → Step (List Json)
  | 0, _, cs => failAt .expectingValue cs
  | fuel + 1, done, cs =>
    match readValue fuel cs with
    | .error e => .error e
    | .ok (j, rest) =>
      match skipGap rest with
      | ']' :: rest => .ok ((j :: done).reverse, rest)
      | ',' :: rest => readItems fuel (j :: done) (skipGap rest)
      | rest => failAt .expectingComma rest

/-- The fields of an object up to its end; `done` holds those read. -/
def readFields : Nat → List (String × Json) → List Char → Step (List (String × Json))
  | 0, _, cs => failAt .expectingKey cs
  | fuel + 1, done, cs =>
    match cs with
    | '"' :: _ =>
      match readString cs with
      | .error e => .error e
      | .ok (key, rest) =>
        match skipGap rest with
        | ':' :: rest =>
          match readValue fuel (skipGap rest) with
          | .error e => .error e
          | .ok (j, rest) =>
            let done := Entries.put done key j
            match skipGap rest with
            | '}' :: rest => .ok (done, rest)
            | ',' :: rest => readFields fuel done (skipGap rest)
            | rest => failAt .expectingComma rest
        | rest => failAt .expectingColon rest
    | cs => failAt .expectingKey cs

end

/-- The place of a failure in a text: lines and columns count from one. -/
def ReadFailure.locate (e : ReadFailure) (text : List Char) : ReadError :=
  let position := text.length - e.left
  let before := text.take position
  { cause := e.cause
    position
    line := before.count '\n' + 1
    column := (before.reverse.takeWhile (· != '\n')).length + 1 }

/-- The value of a text that holds one value and blanks around it. -/
def readChars (text : List Char) : Except ReadFailure Json :=
  match text with
  | '\uFEFF' :: _ => .error ⟨.byteOrderMark, text.length⟩
  | _ =>
    match readValue (2 * text.length + 2) (skipGap text) with
    | .error e => .error e
    | .ok (j, rest) =>
      match skipGap rest with
      | [] => .ok j
      | rest => .error ⟨.extraData, rest.length⟩

def read (text : String) : Except ReadError Json :=
  (readChars text.toList).mapError fun e => e.locate text.toList

end StyleUsage.Json
