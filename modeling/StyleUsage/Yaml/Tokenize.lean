import StyleUsage.Yaml.Scalar
import StyleUsage.Yaml.Tag
import StyleUsage.Yaml.Token

/-!
# From text to tokens

The lexer goes over a text and keeps the columns of the open blocks. A token that may be a key is
remembered until a colon follows it on the same line; then the key token, and the start of a
block mapping if the key opens one, are put in front of it.
-/

namespace StyleUsage.Yaml

/-- A token that is a key if a colon follows it. -/
structure KeyCandidate where
  /-- The number of tokens before it. -/
  place : Nat
  index : Nat
  line : Nat
  column : Nat
  /-- Whether it must be a key. -/
  required : Bool
  deriving Repr, Inhabited

/-- The state of the lexer. -/
structure Lexer where
  cursor : Cursor
  depth : Nat
  /-- The column of the innermost block, -1 outside all blocks. -/
  indent : Int
  /-- The columns of the blocks around it, the innermost first. -/
  outer : List Int
  keyAllowed : Bool
  candidates : List (Nat × KeyCandidate)
  tokens : Array Token
  deriving Inhabited

namespace Lexer

def start (text : List Char) : Lexer :=
  ⟨.start text, 0, -1, [], true, [], #[]⟩

/-- Whether the place is between brackets. -/
def inFlow (l : Lexer) : Bool := l.depth != 0

def push (l : Lexer) (t : Token) : Lexer := { l with tokens := l.tokens.push t }

/-- Add a token and go on after it. -/
def pushAt (l : Lexer) (t : Token) (c : Cursor) : Lexer :=
  { l with tokens := l.tokens.push t, cursor := c }

def insertAt (l : Lexer) (place : Nat) (t : Token) : Lexer :=
  { l with tokens := l.tokens.insertIdxIfInBounds place t }

/-- Complain about a key without its colon. -/
def missingColon {α : Type} : Except YamlError α :=
  .error (.badToken "could not find expected ':'")

/-- Whether a candidate can no longer be a key: a key ends on the line on which it starts, after at
most 1024 characters. -/
def isStale (l : Lexer) (k : KeyCandidate) : Bool :=
  k.line != l.cursor.line || 1024 < l.cursor.index - k.index

/-- Forget the candidates that can no longer be keys. -/
def dropStale (l : Lexer) : Except YamlError Lexer :=
  if l.candidates.any fun p => l.isStale p.2 && p.2.required then missingColon
  else .ok { l with candidates := l.candidates.filter fun p => !l.isStale p.2 }

/-- The tokens in front of which no other token can come any more. -/
def settled (l : Lexer) : List Token :=
  let pending := l.candidates.filter fun p => !l.isStale p.2
  l.tokens.toList.take (pending.foldl (fun n p => min n p.2.place) l.tokens.size)

/-- Forget the candidate of this depth. -/
def dropCandidate (l : Lexer) : Except YamlError Lexer :=
  match l.candidates.lookup l.depth with
  | some k =>
    if k.required then missingColon
    else .ok { l with candidates := l.candidates.filter fun p => p.1 != l.depth }
  | none => .ok l

/-- Remember the next token as a candidate, if a key may start here. -/
def saveCandidate (l : Lexer) : Except YamlError Lexer :=
  if l.keyAllowed then do
    let required := !l.inFlow && l.indent == l.cursor.column
    let l ← l.dropCandidate
    let k : KeyCandidate :=
      ⟨l.tokens.size, l.cursor.index, l.cursor.line, l.cursor.column, required⟩
    .ok { l with candidates := (l.depth, k) :: l.candidates }
  else .ok l

/-- Close the blocks of a list of outer columns that lie to the right of a column. -/
def closeBlocks (column : Int) (l : Lexer) : List Int → Lexer
  | [] => { l with outer := [] }
  | i :: rest =>
    if l.indent > column then closeBlocks column ({ l with indent := i }.push .blockEnd) rest
    else { l with outer := i :: rest }

/-- Close the blocks to the right of a column. Between brackets indentation means nothing. -/
def unwind (l : Lexer) (column : Int) : Lexer :=
  if l.inFlow then l else closeBlocks column l l.outer

/-- Open a block at a column, if it lies to the right of the innermost one. -/
def openBlock (l : Lexer) (column : Nat) : Option Lexer :=
  if l.indent < column then
    some { l with outer := l.indent :: l.outer, indent := column }
  else none

/-- Go over spaces, comments and line ends. After a line end a key may start, outside brackets. -/
def skipGaps : Nat → Lexer → Lexer
  | 0, l => l
  | fuel + 1, l =>
    let c := l.cursor.skipWhile (· == ' ')
    let c := if c.peek == '#' then c.skipWhile fun ch => !isBreakOrEnd ch else c
    if isBreak c.peek then
      skipGaps fuel { l with cursor := c.takeBreak.2, keyAllowed := l.keyAllowed || !l.inFlow }
    else { l with cursor := c }

/-! ## The tokens one by one -/

def atEnd (l : Lexer) : Except YamlError Lexer := do
  let l ← (l.unwind (-1)).dropCandidate
  .ok ({ l with keyAllowed := false, candidates := [] }.push .streamEnd)

def versionNumber (c : Cursor) : Except YamlError (Nat × Cursor) :=
  let (digits, c) := c.takeWhile Char.isDigit
  if digits.isEmpty then .error (.badToken "expected a digit")
  else .ok (digits.foldl (fun n d => n * 10 + (d.toNat - 48)) 0, c)

def directiveValue (name : String) (c : Cursor) : Except YamlError (Directive × Cursor) :=
  let skipSpaces (c : Cursor) : Cursor := c.skipWhile (· == ' ')
  match name with
  | "YAML" => do
    let (major, c) ← versionNumber (skipSpaces c)
    if c.peek != '.' then .error (.badToken "expected a digit or '.'")
    else
      let (_, c) ← versionNumber c.next
      if isSpaceOrEnd c.peek then .ok (.version major, c)
      else .error (.badToken "expected a digit or ' '")
  | "TAG" => do
    let (handle, c) ← scanHandle (skipSpaces c)
    if c.peek != ' ' then .error (.badToken "expected ' '")
    else
      let (uri, c) ← scanUri (skipSpaces c)
      if isSpaceOrEnd c.peek then .ok (.tagPrefix handle uri, c)
      else .error (.badToken "expected ' '")
  | _ => .ok (.unknown, c.skipWhile fun ch => !isBreakOrEnd ch)

def directive (l : Lexer) : Except YamlError Lexer := do
  let l ← (l.unwind (-1)).dropCandidate
  let (name, c) := l.cursor.next.takeWhile isNameChar
  if name.isEmpty || !isSpaceOrEnd c.peek then
    .error (.badToken "expected alphabetic or numeric character")
  else
    let (d, c) ← directiveValue (String.ofList name) c
    let c ← ignoredLine c
    .ok ({ l with keyAllowed := false }.pushAt (.directive d) c)

def documentMark (l : Lexer) (t : Token) : Except YamlError Lexer := do
  let l ← (l.unwind (-1)).dropCandidate
  .ok ({ l with keyAllowed := false }.pushAt t (l.cursor.skip 3))

/-- An opening bracket, which may start a key. -/
def openBracket (l : Lexer) (t : Token) : Except YamlError Lexer := do
  let l ← l.saveCandidate
  .ok ({ l with depth := l.depth + 1, keyAllowed := true }.pushAt t l.cursor.next)

def closeBracket (l : Lexer) (t : Token) : Except YamlError Lexer := do
  let l ← l.dropCandidate
  if l.depth = 0 then .error (.badToken "expected the node content")
  else .ok ({ l with depth := l.depth - 1, keyAllowed := false }.pushAt t l.cursor.next)

def comma (l : Lexer) : Except YamlError Lexer := do
  let l ← l.dropCandidate
  .ok ({ l with keyAllowed := true }.pushAt .flowEntry l.cursor.next)

/-- Open a block at the cursor, with its token, if it lies to the right of the innermost one. -/
def openHere (l : Lexer) (t : Token) : Lexer :=
  match l.openBlock l.cursor.column with
  | some l => l.push t
  | none => l

/-- The dash of a sequence entry. -/
def dash (l : Lexer) : Except YamlError Lexer := do
  if !l.inFlow && !l.keyAllowed then
    .error (.badToken "sequence entries are not allowed here")
  else
    let l := if l.inFlow then l else l.openHere .blockSequenceStart
    let l ← l.dropCandidate
    .ok ({ l with keyAllowed := true }.pushAt .blockEntry l.cursor.next)

def questionMark (l : Lexer) : Except YamlError Lexer := do
  if !l.inFlow && !l.keyAllowed then
    .error (.badToken "mapping keys are not allowed here")
  else
    let l := if l.inFlow then l else l.openHere .blockMappingStart
    let l ← l.dropCandidate
    .ok ({ l with keyAllowed := !l.inFlow }.pushAt .key l.cursor.next)

/-- The colon of a value. If there is a candidate, it is the key. -/
def colon (l : Lexer) : Except YamlError Lexer := do
  match l.candidates.lookup l.depth with
  | some k =>
    let l := { l with candidates := l.candidates.filter fun p => p.1 != l.depth }
    let l := l.insertAt k.place .key
    let l := if l.inFlow then l else
      match l.openBlock k.column with
      | some l => l.insertAt k.place .blockMappingStart
      | none => l
    .ok ({ l with keyAllowed := false }.pushAt .value l.cursor.next)
  | none =>
    if !l.inFlow && !l.keyAllowed then
      .error (.badToken "mapping values are not allowed here")
    else
      let l := if l.inFlow then l else l.openHere .blockMappingStart
      let l ← { l with keyAllowed := !l.inFlow }.dropCandidate
      .ok (l.pushAt .value l.cursor.next)

/-- An alias or an anchor. -/
def named (l : Lexer) (t : String → Token) : Except YamlError Lexer := do
  let l ← l.saveCandidate
  let (name, c) ← scanName l.cursor
  .ok ({ l with keyAllowed := false }.pushAt (t name) c)

def tag (l : Lexer) : Except YamlError Lexer := do
  let l ← l.saveCandidate
  let ((handle, suffix), c) ← scanTag l.cursor
  .ok ({ l with keyAllowed := false }.pushAt (.tag handle suffix) c)

/-- A literal or folded block. A key may follow it. -/
def block (l : Lexer) (folded : Bool) : Except YamlError Lexer := do
  let l ← l.dropCandidate
  let (text, c) ← scanBlock folded l.indent l.cursor
  .ok ({ l with keyAllowed := true }.pushAt (.scalar text false) c)

def quoted (l : Lexer) (double : Bool) : Except YamlError Lexer := do
  let l ← l.saveCandidate
  let (text, c) ← scanQuoted double l.cursor
  .ok ({ l with keyAllowed := false }.pushAt (.scalar text false) c)

/-- A plain scalar. A key may follow it at the start of a line. -/
def plain (l : Lexer) : Except YamlError Lexer := do
  let l ← l.saveCandidate
  let p := scanPlain l.inFlow (l.indent + 1).toNat l.cursor
  .ok ({ l with keyAllowed := p.atLineStart }.pushAt (.scalar (String.ofList p.text) true) p.cursor)

/-- Whether a plain scalar may start here. -/
def startsPlain (l : Lexer) : Bool :=
  let ch := l.cursor.peek
  let marks := "-?:,[]\x7b\x7d#&*!|>'\"%@\x60"
  !(isGapOrEnd ch || marks.contains ch) ||
    (!isGapOrEnd (l.cursor.ahead 1) && (ch == '-' || (!l.inFlow && (ch == '?' || ch == ':'))))

/-- The next token with those that it brings along. -/
def step (l : Lexer) : Except YamlError Lexer := do
  let l ← (skipGaps (l.cursor.rest.length + 1) l).dropStale
  let l := l.unwind l.cursor.column
  let c := l.cursor
  let ch := c.peek
  let spaced := l.inFlow || isGapOrEnd (c.ahead 1)
  if ch == endMark then l.atEnd
  else if ch == '%' && c.column == 0 then l.directive
  else if c.column == 0 && c.isDocumentMark '-' then l.documentMark .documentStart
  else if c.column == 0 && c.isDocumentMark '.' then l.documentMark .documentEnd
  else if ch == '[' then l.openBracket .flowSequenceStart
  else if ch == '{' then l.openBracket .flowMappingStart
  else if ch == ']' then l.closeBracket .flowSequenceEnd
  else if ch == '}' then l.closeBracket .flowMappingEnd
  else if ch == ',' then l.comma
  else if ch == '-' && isGapOrEnd (c.ahead 1) then l.dash
  else if ch == '?' && spaced then l.questionMark
  else if ch == ':' && spaced then l.colon
  else if ch == '*' then l.named .aliasTo
  else if ch == '&' then l.named .anchor
  else if ch == '!' then l.tag
  else if ch == '|' && !l.inFlow then l.block false
  else if ch == '>' && !l.inFlow then l.block true
  else if ch == '\'' then l.quoted false
  else if ch == '"' then l.quoted true
  else if l.startsPlain then l.plain
  else .error (.badToken "found character that cannot start any token")

/-- All tokens up to the end of the text, or up to the first fault. -/
def finish : Nat → Lexer → Tokens
  | 0, l => ⟨l.tokens.toList, none⟩
  | fuel + 1, l =>
    match l.step with
    | .error e => ⟨l.settled, some e⟩
    | .ok l =>
      if l.tokens.back? == some .streamEnd then ⟨l.tokens.toList, none⟩ else finish fuel l

end Lexer

/-- Whether a character may stand in a document. -/
def isAllowedChar (c : Char) : Bool :=
  let n := c.toNat
  n == 9 || n == 10 || n == 13 || (0x20 ≤ n && n ≤ 0x7E) || n == 0x85 ||
    (0xA0 ≤ n && n ≤ 0xFFFD) || 0x10000 ≤ n

/-- The tokens of a text. A byte order mark at its start is passed over. -/
def tokenize (text : List Char) : Tokens :=
  match text.find? fun c => !isAllowedChar c with
  | some c => ⟨[], some (.forbiddenCharacter c)⟩
  | none =>
    let l := Lexer.start text
    let l := if l.cursor.peek == '\uFEFF' then { l with cursor := l.cursor.next } else l
    l.finish (text.length + 1)

end StyleUsage.Yaml
