import StyleUsage.Text.Digits
import StyleUsage.Yaml.Cursor
import StyleUsage.Yaml.Error

/-!
# Scalars of a YAML document

The five ways in which a scalar is written: plain, between single or double quotes, and as a
literal or folded block. A line end inside a plain or quoted scalar counts as a space, and
further line ends stand for themselves.
-/

namespace StyleUsage.Yaml

/-! ## Escapes -/

def escapedChar? : Char → Option Char
  | '0' => some '\x00'
  | 'a' => some '\x07'
  | 'b' => some '\x08'
  | 't' | '\t' => some '\t'
  | 'n' => some '\n'
  | 'v' => some '\x0b'
  | 'f' => some '\x0c'
  | 'r' => some '\r'
  | 'e' => some '\x1b'
  | ' ' => some ' '
  | '"' => some '"'
  | '\\' => some '\\'
  | '/' => some '/'
  | 'N' => some '\x85'
  | '_' => some '\xa0'
  | 'L' => some '\u2028'
  | 'P' => some '\u2029'
  | _ => none

/-- The number of digits of a numeric escape. -/
def escapeWidth? : Char → Option Nat
  | 'x' => some 2
  | 'u' => some 4
  | 'U' => some 8
  | _ => none

/-- The number that the next `width` characters are in base sixteen. -/
def hexAhead? (c : Cursor) (width : Nat) : Option Nat :=
  (List.range width).foldlM (fun n i => (Text.hexValue? (c.ahead i)).map fun d => n * 16 + d) 0

/-! ## Line ends inside scalars -/

/-- The line ends that follow, with blanks around them. -/
def quotedBreaks : Nat → Cursor → Except YamlError (List Char × Cursor)
  | 0, c => .ok ([], c)
  | fuel + 1, c =>
    if c.isAnyDocumentMark then .error (.badToken "found unexpected document separator")
    else
      let c := c.skipWhile fun ch => ch == ' ' || ch == '\t'
      if isBreak c.peek then do
        let (ch, c) := c.takeBreak
        let (more, c) ← quotedBreaks fuel c
        .ok (ch ++ more, c)
      else .ok ([], c)

/-- What a line end and the line ends after it stand for. -/
def foldedBreak (first : List Char) (more : List Char) : List Char :=
  if first != ['\n'] then first ++ more
  else if more.isEmpty then [' ']
  else more

/-! ## Quoted scalars -/

/-- The characters of a quoted scalar up to a blank, a line end or the closing quote. -/
def quotedRun (double : Bool) : Nat → Cursor → Except YamlError (List Char × Cursor)
  | 0, c => .ok ([], c)
  | fuel + 1, c =>
    let ch := c.peek
    if !double && ch == '\'' && c.ahead 1 == '\'' then do
      let (more, c) ← quotedRun double fuel (c.skip 2)
      .ok ('\'' :: more, c)
    else if (double && ch == '\'') || (!double && (ch == '"' || ch == '\\')) then do
      let (more, c) ← quotedRun double fuel c.next
      .ok (ch :: more, c)
    else if double && ch == '\\' then
      let c := c.next
      let e := c.peek
      match escapedChar? e, escapeWidth? e with
      | some x, _ => do
        let (more, c) ← quotedRun double fuel c.next
        .ok (x :: more, c)
      | none, some width =>
        match hexAhead? c.next width with
        | none => .error (.badToken "expected escape sequence of hexadecimal numbers")
        | some n => do
          if n ≥ 0x80000000 then throw .hugeCode
          if n ≥ 0x110000 then throw (.outOfRange "chr() arg not in range(0x110000)")
          let (more, c) ← quotedRun double fuel (c.next.skip width)
          .ok (Char.ofNat n :: more, c)
      | none, none =>
        if isBreak e then do
          let (breaks, c) ← quotedBreaks fuel c.takeBreak.2
          let (more, c) ← quotedRun double fuel c
          .ok (breaks ++ more, c)
        else .error (.badToken "found unknown escape character")
    else if ch == '\'' || ch == '"' || ch == '\\' || isGapOrEnd ch then .ok ([], c)
    else do
      let (more, c) ← quotedRun double fuel c.next
      .ok (ch :: more, c)

/-- The blanks or line ends between two runs of a quoted scalar. -/
def quotedGap (fuel : Nat) (c : Cursor) : Except YamlError (List Char × Cursor) :=
  let (blanks, c) := c.takeWhile fun ch => ch == ' ' || ch == '\t'
  if c.peek == endMark then .error (.badToken "found unexpected end of stream")
  else if isBreak c.peek then do
    let (first, c) := c.takeBreak
    let (more, c) ← quotedBreaks fuel c
    .ok (foldedBreak first more, c)
  else .ok (blanks, c)

/-- The rest of a quoted scalar after its first run. -/
def quotedRest (double : Bool) : Nat → Cursor → Except YamlError (List Char × Cursor)
  | 0, _ => .error (.badToken "found unexpected end of stream")
  | fuel + 1, c =>
    if c.peek == (if double then '"' else '\'') then .ok ([], c.next)
    else do
      let (gap, c) ← quotedGap (fuel + 1) c
      let (run, c) ← quotedRun double (c.rest.length + 1) c
      let (more, c) ← quotedRest double fuel c
      .ok (gap ++ run ++ more, c)

def scanQuoted (double : Bool) (c : Cursor) : Except YamlError (String × Cursor) := do
  let (run, c) ← quotedRun double (c.rest.length + 1) c.next
  let (more, c) ← quotedRest double (c.rest.length + 1) c
  .ok (String.ofList (run ++ more), c)

/-! ## Plain scalars -/

/-- Whether a plain scalar ends before a character, given the one after it. -/
def endsPlain (inFlow : Bool) (ch after : Char) : Bool :=
  isGapOrEnd ch ||
    (ch == ':' && (isGapOrEnd after || (inFlow && ",[]\x7b\x7d".contains after))) ||
    (inFlow && ",?[]\x7b\x7d".contains ch)

/-- The number of characters that a run of a plain scalar has. -/
def plainLength (inFlow : Bool) : List Char → Nat
  | [] => 0
  | ch :: rest =>
    if endsPlain inFlow ch (rest.headD endMark) then 0 else plainLength inFlow rest + 1

/-- The line ends that follow in a plain scalar, with spaces around them; nothing if a mark
between documents follows. -/
def plainBreaks : Nat → Cursor → Option (List Char) × Cursor
  | 0, c => (some [], c)
  | fuel + 1, c =>
    if c.peek == ' ' then plainBreaks fuel c.next
    else if isBreak c.peek then
      let (ch, c) := c.takeBreak
      if c.isAnyDocumentMark then (none, c)
      else
        let (more, c) := plainBreaks fuel c
        (more.map (ch ++ ·), c)
    else (some [], c)

/-- What lies between two runs of a plain scalar, and whether a line end was crossed. The scalar
ends if nothing lies there. -/
def plainGap (c : Cursor) : List Char × Bool × Cursor :=
  let (blanks, c) := c.takeWhile (· == ' ')
  if isBreak c.peek then
    let (first, c) := c.takeBreak
    if c.isAnyDocumentMark then ([], true, c)
    else
      let (more, c) := plainBreaks (c.rest.length + 1) c
      match more with
      | some more => (foldedBreak first more, true, c)
      | none => ([], true, c)
  else (blanks, false, c)

/-- A plain scalar that was scanned. -/
structure PlainScan where
  text : List Char
  atLineStart : Bool
  cursor : Cursor

/-- The runs of a plain scalar. `gap` lies before the next run. Outside brackets every line must
be indented by at least `indent` columns. -/
def plainRuns (inFlow : Bool) (indent : Nat) :
    Nat → List Char → Bool → Cursor → PlainScan
  | 0, _, lineStart, c => ⟨[], lineStart, c⟩
  | fuel + 1, gap, lineStart, c =>
    let length := if c.peek == '#' then 0 else plainLength inFlow c.rest
    if length = 0 then ⟨[], lineStart, c⟩
    else
      let run := c.rest.take length
      let (gap', crossed, c) := plainGap (c.skip length)
      if gap'.isEmpty || c.peek == '#' || (!inFlow && c.column < indent) then
        ⟨gap ++ run, crossed, c⟩
      else
        let more := plainRuns inFlow indent fuel gap' crossed c
        { more with text := gap ++ run ++ more.text }

def scanPlain (inFlow : Bool) (indent : Nat) (c : Cursor) : PlainScan :=
  plainRuns inFlow indent (c.rest.length + 1) [] false c

/-! ## Block scalars -/

/-- What becomes of the line ends at the end of a block scalar. -/
inductive Chomping where
  | strip
  | clip
  | keep
  deriving DecidableEq, Repr

/-- The sign after the mark of a block scalar. -/
def chompingSign (c : Cursor) : Option (Chomping × Cursor) :=
  if c.peek == '+' then some (.keep, c.next)
  else if c.peek == '-' then some (.strip, c.next)
  else none

/-- The digit after the mark of a block scalar. -/
def indentDigit (c : Cursor) : Except YamlError (Option (Nat × Cursor)) :=
  if c.peek.isDigit then
    if c.peek == '0' then
      .error (.badToken "expected indentation indicator in the range 1-9, but found 0")
    else .ok (some (c.peek.toNat - 48, c.next))
  else .ok none

/-- The signs after the mark of a block scalar, in either order. -/
def blockHeader (c : Cursor) : Except YamlError ((Chomping × Option Nat) × Cursor) := do
  let (chomping, digit, c) ← match chompingSign c with
    | some (chomping, c) => do
      match ← indentDigit c with
      | some (n, c) => .ok (chomping, some n, c)
      | none => .ok (chomping, none, c)
    | none => do
      match ← indentDigit c with
      | some (n, c) =>
        match chompingSign c with
        | some (chomping, c) => .ok (chomping, some n, c)
        | none => .ok (.clip, some n, c)
      | none => .ok (.clip, none, c)
  if isSpaceOrEnd c.peek then .ok ((chomping, digit), c)
  else .error (.badToken "expected chomping or indentation indicators")

/-- The rest of a line that holds nothing but a comment. -/
def ignoredLine (c : Cursor) : Except YamlError Cursor :=
  let c := c.skipWhile (· == ' ')
  let c := if c.peek == '#' then c.skipWhile fun ch => !isBreakOrEnd ch else c
  if isBreakOrEnd c.peek then .ok c.takeBreak.2
  else .error (.badToken "expected a comment or a line break")

/-- The empty lines at the start of a block scalar, and the widest indentation among them and the
first line with content. -/
def blockIndentation : Nat → Nat → Cursor → List Char × Nat × Cursor
  | 0, widest, c => ([], widest, c)
  | fuel + 1, widest, c =>
    if c.peek == ' ' then blockIndentation fuel (max widest c.next.column) c.next
    else if isBreak c.peek then
      let (ch, c) := c.takeBreak
      let (more, widest, c) := blockIndentation fuel widest c
      (ch ++ more, widest, c)
    else ([], widest, c)

/-- The empty lines before the next line with content. -/
def blockBreaks (indent : Nat) : Nat → Cursor → List Char × Cursor
  | 0, c => ([], c)
  | fuel + 1, c =>
    let c := c.skipSpacesTo indent
    if isBreak c.peek then
      let (ch, c) := c.takeBreak
      let (more, c) := blockBreaks indent fuel c
      (ch ++ more, c)
    else ([], c)

/-- The lines of a block scalar: their text, the last line end, the empty lines after it, and the
place after all of them. `breaks` are the empty lines before the next line. -/
def blockLines (folded : Bool) (indent : Nat) :
    Nat → List Char → Cursor → List Char × List Char × List Char × Cursor
  | 0, breaks, c => ([], [], breaks, c)
  | fuel + 1, breaks, c =>
    if c.column == indent && c.peek != endMark then
      let flush := c.peek != ' ' && c.peek != '\t'
      let (line, c) := c.takeWhile fun ch => !isBreakOrEnd ch
      let (lineEnd, c) := c.takeBreak
      let (after, c) := blockBreaks indent (c.rest.length + 1) c
      if c.column == indent && c.peek != endMark then
        let joint :=
          if folded && lineEnd == ['\n'] && flush && c.peek != ' ' && c.peek != '\t' then
            if after.isEmpty then [' '] else []
          else lineEnd
        let (more, last, tail, c) := blockLines folded indent fuel after c
        (breaks ++ line ++ joint ++ more, last, tail, c)
      else (breaks ++ line, lineEnd, after, c)
    else ([], [], breaks, c)

/-- A block scalar from its mark on, inside a block of the given indentation. -/
def scanBlock (folded : Bool) (outer : Int) (c : Cursor) : Except YamlError (String × Cursor) := do
  let ((chomping, digit), c) ← blockHeader c.next
  let c ← ignoredLine c
  let least := (max 1 (outer + 1)).toNat
  let (breaks, indent, c) := match digit with
    | some n =>
      let indent := least + n - 1
      let (breaks, c) := blockBreaks indent (c.rest.length + 1) c
      (breaks, indent, c)
    | none =>
      let (breaks, widest, c) := blockIndentation (c.rest.length + 1) 0 c
      (breaks, max least widest, c)
  let (text, last, tail, c) := blockLines folded indent (c.rest.length + 1) breaks c
  let ending := match chomping with
    | .strip => []
    | .clip => last
    | .keep => last ++ tail
  .ok (String.ofList (text ++ ending), c)

end StyleUsage.Yaml
