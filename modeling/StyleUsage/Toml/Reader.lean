import StyleUsage.Toml.Scalar
import StyleUsage.Toml.Tree

/-!
# Reading TOML documents

A document is a list of lines, each with a key and its value, a header or nothing, and with a
comment at its end.
-/

namespace StyleUsage.Toml

/-- Whether a character may stand in a key without quotes. -/
def isKeyChar (c : Char) : Bool := c.isAlphanum || c == '-' || c == '_'

/-- The rest of the line of a comment, if one starts here. -/
def skipComment (cs : List Char) : Except TomlError (List Char) :=
  match cs with
  | '#' :: rest =>
    match (rest.takeWhile (· != '\n')).find? isControl with
    | some c => .error (.controlCharacter c)
    | none => .ok (rest.dropWhile (· != '\n'))
  | _ => .ok cs

/-- Go over gaps and comments between the items of an array. -/
def skipGaps : Nat → List Char → Except TomlError (List Char)
  | 0, cs => .ok cs
  | fuel + 1, cs => do
    match cs.dropWhile isGap with
    | '#' :: rest => skipGaps fuel (← skipComment ('#' :: rest))
    | rest => .ok rest

def keyPart (cs : List Char) : Except TomlError (String × List Char) :=
  match cs with
  | '"' :: rest => basicLine [] cs.length rest
  | '\'' :: rest => literalLine [] rest
  | _ =>
    let part := cs.takeWhile isKeyChar
    if part.isEmpty then .error .badKey else .ok (.ofList part, cs.dropWhile isKeyChar)

/-- A key with its parts, and the blanks after it. -/
def key : Nat → List Char → Except TomlError (List String × List Char)
  | 0, _ => .error .badKey
  | fuel + 1, cs => do
    let (part, rest) ← keyPart cs
    match rest.dropWhile isBlank with
    | '.' :: rest =>
      let (parts, rest) ← key fuel (rest.dropWhile isBlank)
      .ok (part :: parts, rest)
    | rest => .ok ([part], rest)

/-- A key with the equals sign after it, and the blanks after that. -/
def keyAndEquals (cs : List Char) : Except TomlError (List String × List Char) := do
  let (k, rest) ← key (cs.length + 1) cs
  match rest with
  | '=' :: rest => .ok (k, rest.dropWhile isBlank)
  | _ => .error .expectedEquals

mutual

def value : Nat → List Char → Except TomlError (Toml × List Char)
  | 0, _ => .error .badValue
  | fuel + 1, cs =>
    match readText? cs with
    | some taken => taken.map fun (s, rest) => (.str s, rest)
    | none =>
      match cs with
      | 't' :: 'r' :: 'u' :: 'e' :: rest => .ok (.bool true, rest)
      | 'f' :: 'a' :: 'l' :: 's' :: 'e' :: rest => .ok (.bool false, rest)
      | '[' :: rest => do
        let (items, rest) ← arrayItems fuel rest
        .ok (.array items, rest)
      | '{' :: rest =>
        match rest.dropWhile isBlank with
        | '}' :: rest => .ok (.table [], rest)
        | rest => do
          let (fields, rest) ← inlineFields [] fuel rest
          .ok (.table (fieldValues fields), rest)
      | _ =>
        match readMoment? cs with
        | some taken => taken
        | none =>
          match readNumber? cs with
          | some (v, rest) => .ok (v, rest)
          | none => .error .badValue

def arrayItems : Nat → List Char → Except TomlError (List Toml × List Char)
  | 0, _ => .error .unclosedArray
  | fuel + 1, cs => do
    match ← skipGaps (cs.length + 1) cs with
    | ']' :: rest => .ok ([], rest)
    | cs =>
      let (v, rest) ← value fuel cs
      match ← skipGaps (rest.length + 1) rest with
      | ']' :: rest => .ok ([v], rest)
      | ',' :: rest =>
        let (vs, rest) ← arrayItems fuel rest
        .ok (v :: vs, rest)
      | _ => .error .unclosedArray

/-- The fields of a table on one line up to its closing brace, after those read so far. -/
def inlineFields (done : Fields) :
    Nat → List Char → Except TomlError (Fields × List Char)
  | 0, _ => .error .unclosedTable
  | fuel + 1, cs => do
    let (k, rest) ← keyAndEquals cs
    let (v, rest) ← value fuel rest
    let done ← Fields.assign 0 (.repeatedKey k) v k done
    match rest.dropWhile isBlank with
    | '}' :: rest => .ok (done, rest)
    | ',' :: rest => inlineFields done fuel (rest.dropWhile isBlank)
    | _ => .error .unclosedTable

end

/-- What is known of a document as far as it is read. -/
structure Draft where
  fields : Fields
  header : List String
  number : Nat

/-- A header, after its opening brackets. -/
def header (d : Draft) (repeatable : Bool) (cs : List Char) :
    Except TomlError (Draft × List Char) := do
  let (path, rest) ← key (cs.length + 1) (cs.dropWhile isBlank)
  let fields ← if repeatable then d.fields.declareNext path else d.fields.declare path
  let d : Draft := ⟨fields, path, d.number + 1⟩
  match rest, repeatable with
  | ']' :: ']' :: rest, true => .ok (d, rest)
  | ']' :: rest, false => .ok (d, rest)
  | _, _ => .error .unclosedHeader

/-- What a line says, blanks and a comment at its end apart. -/
def statement (d : Draft) (cs : List Char) : Except TomlError (Draft × List Char) :=
  match cs with
  | '[' :: '[' :: rest => header d true rest
  | '[' :: rest => header d false rest
  | '#' :: _ | '\n' :: _ | [] => .ok (d, cs)
  | c :: _ =>
    if isKeyChar c || c == '"' || c == '\'' then do
      let (k, rest) ← keyAndEquals cs
      let (v, rest) ← value (rest.length + 1) rest
      let fields ← d.fields.assignUnder d.header d.number k v
      .ok ({ d with fields }, rest)
    else .error .badStatement

/-- All lines of a document. -/
def statements : Nat → Draft → List Char → Except TomlError Draft
  | 0, d, _ => .ok d
  | fuel + 1, d, cs => do
    let (d, rest) ← statement d (cs.dropWhile isBlank)
    match ← skipComment (rest.dropWhile isBlank) with
    | [] => .ok d
    | '\n' :: rest => statements fuel d rest
    | _ => .error .expectedLineEnd

/-- The table that a text stands for. -/
def read (text : String) : Except TomlError Toml := do
  let cs := text.toList
  let d ← statements (cs.length + 1) ⟨[], [], 0⟩ cs
  .ok (.table (fieldValues d.fields))

end StyleUsage.Toml
