import StyleUsage.Text.Digits

/-!
# Literals

A tag may hand an argument to an action. The argument is a literal: a number, a text, bytes, one of
a few names, or a tuple, a set or a mapping of literals. A complex number is a sum of a real and an
imaginary number. Only whether a text is a literal matters here, not what it stands for.
-/

namespace StyleUsage.Report

/-- What kind of value a literal is. -/
inductive Literal where
  | real
  | imaginary
  /-- A number with a sign, and whether it is imaginary. -/
  | signed (imaginary : Bool)
  | text
  | bytes
  /-- Any other value, and whether it may be a key or a member of a set. -/
  | other (keyable : Bool)
  deriving DecidableEq, Repr, Inhabited

namespace Literal

/-- Whether a value may be a key or a member of a set. -/
def isKeyable : Literal → Bool
  | .other keyable => keyable
  | _ => true

/-! ## Gaps -/

def isLineEnd (c : Char) : Bool := c == '\n' || c == '\x0d'

/-- What is left after the gaps in front of it. Between brackets line ends and comments are gaps
too. A comment goes on to the end of its line; `commented` tells whether one has begun. -/
def skipGaps (inside commented : Bool) : List Char → List Char
  | [] => []
  | c :: rest =>
    if commented then
      if isLineEnd c then (if inside then skipGaps inside false rest else c :: rest)
      else skipGaps inside true rest
    else if c == ' ' || c == '\t' || c == '\x0c' then skipGaps inside false rest
    else if c == '#' then skipGaps inside true rest
    else if c == '\\' && rest.head?.any isLineEnd then skipGaps inside false (rest.drop 1)
    else if inside && isLineEnd c then skipGaps inside false rest
    else c :: rest
termination_by cs => cs.length
decreasing_by all_goals simp_all; try omega

/-- Whether a character may stand in a name. -/
def isWordChar (c : Char) : Bool := c.isAlphanum || c == '_'

/-! ## Numbers -/

/-- Digits that go on, single underscores between them passed over, and the rest. -/
def moreDigits (isDigit : Char → Bool) : List Char → List Char × List Char
  | '_' :: c :: rest =>
    if isDigit c then
      let (digits, rest) := moreDigits isDigit rest
      (c :: digits, rest)
    else ([], '_' :: c :: rest)
  | c :: rest =>
    if isDigit c then
      let (digits, rest) := moreDigits isDigit rest
      (c :: digits, rest)
    else ([], c :: rest)
  | [] => ([], [])

/-- A row of digits and the rest. -/
def digits (isDigit : Char → Bool) (cs : List Char) : List Char × List Char :=
  if cs.head?.any isDigit then moreDigits isDigit cs else ([], cs)

/-- The rest after a whole number in a base that a letter names. -/
def basedNumber? (letter : Char) (cs : List Char) : Option (List Char) :=
  let base : Option Nat := match letter.toLower with
    | 'x' => some 16
    | 'o' => some 8
    | 'b' => some 2
    | _ => none
  base.bind fun base =>
    let isDigit (c : Char) : Bool := (Text.hexValue? c).any fun d => decide (d < base)
    -- one underscore may follow the letter
    let cs := if cs.head? == some '_' then cs.drop 1 else cs
    match digits isDigit cs with
    | ([], _) => none
    | (_, rest) => some rest

/-- The rest after an exponent, if there is one. -/
def skipExponent (cs : List Char) : List Char × Bool :=
  match cs with
  | e :: rest =>
    if e == 'e' || e == 'E' then
      let after := if rest.head?.any (fun c => c == '+' || c == '-') then rest.drop 1 else rest
      match digits Char.isDigit after with
      | ([], _) => (cs, false)
      | (_, rest) => (rest, true)
    else (cs, false)
  | [] => (cs, false)

/-- A number and the rest. A whole number does not start with a zero unless it is zero. -/
def number? (cs : List Char) : Option (Literal × List Char) :=
  let ended (kind : Literal) (rest : List Char) : Option (Literal × List Char) :=
    if rest.head?.any isWordChar then none else some (kind, rest)
  let based := match cs with
    | '0' :: letter :: rest => basedNumber? letter rest
    | _ => none
  match based with
  | some rest => ended .real rest
  | none =>
    let (whole, rest) := digits Char.isDigit cs
    let (fraction, rest, pointed) := match rest with
      | '.' :: more =>
        let (fraction, after) := digits Char.isDigit more
        (fraction, after, true)
      | rest => ([], rest, false)
    if whole.isEmpty && fraction.isEmpty then none
    else
      let (rest, scaled) := skipExponent rest
      match rest with
      | 'j' :: rest | 'J' :: rest => ended .imaginary rest
      | rest =>
        if !pointed && !scaled && whole.head? == some '0' && whole.any (· != '0') then none
        else ended .real rest

/-! ## Texts -/

/-- Whether an escape is complete, given what comes after its backslash. -/
def isEscape (bytes : Bool) (cs : List Char) : Bool :=
  let hexadecimal (n : Nat) (cs : List Char) : Bool :=
    let front := cs.take n
    front.length == n && front.all fun c => (Text.hexValue? c).isSome
  match cs with
  | 'x' :: rest => hexadecimal 2 rest
  | 'u' :: rest => bytes || hexadecimal 4 rest
  | 'U' :: rest =>
    bytes || (hexadecimal 8 rest && (Text.numberIn? 16 (rest.take 8)).any (· < 0x110000))
  | 'N' :: rest =>
    bytes || (rest.head? == some '{' && rest.contains '}' && (rest.drop 1).head? != some '}')
  | _ :: _ => true
  | [] => false

/-- The rest after the end of a text that has been opened by a quote, or by three of them. -/
def textEnd? (quote : Char) (triple raw bytes escaped : Bool) : List Char → Option (List Char)
  | [] => none
  | c :: rest =>
    if c == '\x00' || (bytes && 0x7F < c.toNat) then none
    else if escaped then textEnd? quote triple raw bytes false rest
    else if c == '\\' then
      if raw || isEscape bytes rest then textEnd? quote triple raw bytes true rest else none
    else if c == quote then
      if !triple then some rest
      else if [quote, quote].isPrefixOf rest then some (rest.drop 2)
      else textEnd? quote triple raw bytes false rest
    else if isLineEnd c && !triple then none
    else textEnd? quote triple raw bytes false rest

/-- A text or bytes between quotes, and the rest. Letters in front tell about bytes and about
backslashes that are taken as they are. -/
def quoted? (cs : List Char) : Option (Literal × List Char) :=
  let letters := (cs.takeWhile Char.isAlpha).map Char.toLower
  let rest := cs.drop letters.length
  if ["", "r", "u", "b", "br", "rb"].contains (String.ofList letters) then
    let bytes := letters.contains 'b'
    match rest with
    | quote :: rest =>
      if quote == '"' || quote == '\'' then
        let triple := [quote, quote].isPrefixOf rest
        let body := if triple then rest.drop 2 else rest
        (textEnd? quote triple (letters.contains 'r') bytes false body).map fun rest =>
          (if bytes then .bytes else .text, rest)
      else none
    | [] => none
  else none

/-- Texts one after another, which are one text; texts and bytes do not mix. -/
def quotedRow? (inside : Bool) : Nat → List Char → Option (Literal × List Char)
  | 0, _ => none
  | fuel + 1, cs => do
    let (kind, rest) ← quoted? cs
    let next := skipGaps inside false rest
    match quoted? next with
    | none =>
      if next.head?.any (fun c => c == '"' || c == '\'') then none else some (kind, rest)
    | some _ => do
      let (others, rest) ← quotedRow? inside fuel next
      if others = kind then some (kind, rest) else none

/-! ## Values -/

/-- A name that is a literal, and the rest. -/
def name? (inside : Bool) (cs : List Char) : Option (Literal × List Char) :=
  let word := String.ofList (cs.takeWhile isWordChar)
  let rest := cs.drop word.length
  if ["True", "False", "None"].contains word then some (.other true, rest)
  else if word = "set" then
    match skipGaps inside false rest with
    | '(' :: rest =>
      match skipGaps true false rest with
      | ')' :: rest => some (.other false, rest)
      | _ => none
    | _ => none
  else none

mutual

/-- A value: a literal, a number with a sign, or a complex number. -/
def value? (inside : Bool) : Nat → List Char → Option (Literal × List Char)
  | 0, _ => none
  | fuel + 1, cs => do
    let (first, rest) ← term? inside fuel (skipGaps inside false cs)
    match skipGaps inside false rest with
    | sign :: more =>
      if sign == '+' || sign == '-' then
        let (second, rest) ← atom? inside fuel (skipGaps inside false more)
        if (first = .real ∨ first = .signed false) ∧ second = .imaginary then
          some (.other true, rest)
        else none
      else some (first, rest)
    | [] => some (first, rest)

/-- A literal, or a number with a sign. -/
def term? (inside : Bool) : Nat → List Char → Option (Literal × List Char)
  | 0, _ => none
  | fuel + 1, cs =>
    match cs with
    | '+' :: more | '-' :: more => do
      let (kind, rest) ← atom? inside fuel (skipGaps inside false more)
      match kind with
      | .real => some (.signed false, rest)
      | .imaginary => some (.signed true, rest)
      | _ => none
    | cs => atom? inside fuel cs

def atom? (inside : Bool) : Nat → List Char → Option (Literal × List Char)
  | 0, _ => none
  | fuel + 1, cs =>
    match cs with
    | '(' :: rest => tuple? true fuel rest
    | '{' :: rest =>
      match skipGaps true false rest with
      | '}' :: rest => some (.other false, rest)
      | rest => members? fuel rest
    | '.' :: '.' :: '.' :: rest => some (.other true, rest)
    | c :: _ =>
      if c.isDigit || c == '.' then number? cs
      else (quotedRow? inside cs.length cs).or (name? inside cs)
    | [] => none

/-- The items of a tuple up to its end, a closing bracket or the end of the text. One item without a
comma is no tuple but that item. -/
def tuple? (inside : Bool) : Nat → List Char → Option (Literal × List Char)
  | 0, _ => none
  | fuel + 1, cs => do
    let ended (cs : List Char) : Option (List Char) :=
      match inside, cs with
      | true, ')' :: rest => some rest
      | true, _ => none
      | false, cs => if (skipGaps true false cs).isEmpty then some [] else none
    match ended (skipGaps inside false cs) with
    | some rest => if inside then some (.other true, rest) else none
    | none =>
      let (first, rest) ← value? inside fuel cs
      match skipGaps inside false rest with
      | ',' :: rest => do
        match ended (skipGaps inside false rest) with
        | some rest => some (.other first.isKeyable, rest)
        | none => do
          let (others, rest) ← tuple? inside fuel rest
          some (.other (first.isKeyable && others.isKeyable), rest)
      | rest => do some (first, ← ended rest)

/-- The members of a set or the entries of a mapping up to the closing brace. -/
def members? : Nat → List Char → Option (Literal × List Char)
  | 0, _ => none
  | fuel + 1, cs => do
    let (first, rest) ← value? true fuel cs
    if !first.isKeyable then none
    else match skipGaps true false rest with
      | ':' :: rest => do
        let (_, rest) ← value? true fuel rest
        moreMembers? true fuel (skipGaps true false rest)
      | rest => moreMembers? false fuel rest

/-- The further members or, if `entries` is true, entries, and the closing brace. -/
def moreMembers? (entries : Bool) : Nat → List Char → Option (Literal × List Char)
  | 0, _ => none
  | fuel + 1, cs =>
    match cs with
    | '}' :: rest => some (.other false, rest)
    | ',' :: rest =>
      match skipGaps true false rest with
      | '}' :: rest => some (.other false, rest)
      | rest => do
        let (key, rest) ← value? true fuel rest
        if !key.isKeyable then none
        else match entries, skipGaps true false rest with
          | true, ':' :: rest => do
            let (_, rest) ← value? true fuel rest
            moreMembers? true fuel (skipGaps true false rest)
          | true, _ => none
          | false, rest => moreMembers? false fuel rest
    | _ => none

end

def isLiteral (cs : List Char) : Bool :=
  -- every level takes at most a handful of steps for one character
  (tuple? false (8 * cs.length + 8) (skipGaps true false cs)).isSome

end Literal

end StyleUsage.Report
