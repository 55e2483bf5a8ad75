import StyleUsage.Report.Literal
import StyleUsage.Report.Manner
import StyleUsage.Text.Emoji

/-!
# Markup

A text may hold tags in brackets, which start and end a manner of writing. They are not shown. A
bracket opens a tag if a small letter, a number sign, a slash or an at sign follows it and it is
closed before the next bracket opens; a backslash in front of it keeps the tag as text. Names of
emoji are replaced in each stretch of text between tags.
-/

namespace StyleUsage.Report

/-- A tag: its name, and what follows its first equals sign. -/
structure Tag where
  name : List Char
  parameters : Option (List Char)
  deriving DecidableEq, Repr

/-- A part of a text with markup. -/
inductive Piece where
  | text (cs : List Char)
  | tag (t : Tag)
  deriving DecidableEq, Repr

/-- What is wrong with markup. -/
inductive MarkupError where
  /-- A tag ends what has not been started. -/
  | unmatched (tag : Tag)
  /-- The parameters of a tag for an action are no literal. -/
  | badArgument (tag : Tag)
  /-- The name of a tag describes a color with a part that is no number. -/
  | missingNumber
  /-- Whatever else a console may find wrong. -/
  | other (message : String)
  deriving DecidableEq, Repr

/-- A tag as it is written, without its brackets. -/
def Tag.text (t : Tag) : String :=
  String.ofList (t.name ++ (t.parameters.map ('=' :: ·)).getD [])

def MarkupError.message : MarkupError → String
  | .unmatched t => "closing tag '[" ++ t.text ++ "]' doesn't match any open tag"
  | .badArgument t => "error parsing '" ++ t.text ++ "'"
  | .missingNumber => MannerFault.missingNumber.message
  | .other message => message

/-! ## Pieces -/

/-- Whether a character may follow the opening bracket of a tag. -/
def startsTag (c : Char) : Bool := ('a' ≤ c && c ≤ 'z') || c == '#' || c == '/' || c == '@'

/-- The body of a tag, after its opening bracket, and the rest. -/
def readTag? (cs : List Char) : Option (List Char × List Char) :=
  let body := cs.takeWhile fun c => c != ']' && c != '['
  match cs.drop body.length with
  | ']' :: rest => if body.head?.any startsTag then some (body, rest) else none
  | _ => none

def Tag.ofBody (body : List Char) : Tag :=
  ⟨body.takeWhile (· != '='),
    if body.contains '=' then some ((body.dropWhile (· != '=')).drop 1) else none⟩

/-- The parts of a text; `held` is the text since the last tag, the last character first. Of
backslashes in front of a tag every second is shown, and a last single one keeps the tag. -/
def pieces (held : List Char) : Nat → List Char → List Piece
  | 0, cs => [.text (held.reverse ++ cs)]
  | _, [] => [.text held.reverse]
  | fuel + 1, c :: rest =>
    let slashes := (c :: rest).takeWhile (· == '\\')
    let tag? := match (c :: rest).drop slashes.length with
      | '[' :: after => readTag? after
      | _ => none
    match tag? with
    | some (body, rest) =>
      .text held.reverse :: .text (slashes.take (slashes.length / 2)) ::
        (if slashes.length % 2 = 0 then .tag (.ofBody body) else .text ('[' :: body ++ [']'])) ::
        pieces [] fuel rest
    | none => pieces (c :: held) fuel rest

/-- Drop the backslash in front of every bracket. -/
def unescape : List Char → List Char
  | '\\' :: '[' :: rest => '[' :: unescape rest
  | c :: rest => c :: unescape rest
  | [] => []

/-! ## Tags -/

/-- The plain form of a description of a manner of writing. -/
def plainForm (cs : List Char) : Except MarkupError String :=
  (Manner.plainForm cs).mapError fun _ => .missingNumber

/-- Whether a character may stand in the name of an action. -/
def isActionChar (c : Char) : Bool :=
  Literal.isWordChar c || c == '.' || (0x7F < c.toNat && Text.hasCase c)

/-- The argument that the parameters of an action hold: what stands between brackets after the name
of the action, or else all of them. Nothing but a name is an action without an argument. -/
def argument? (parameters : List Char) : Option (List Char) :=
  let cs := Text.stripChars parameters
  let after := cs.dropWhile isActionChar
  if after.isEmpty then none
  else if after.head? == some '(' && after.getLast? == some ')' && !after.contains '\n' then
    some after
  else some cs

/-- Check the parameters of a tag that ends: those of an action are a literal. -/
def checkArgument (t : Tag) : Except MarkupError Unit :=
  match t.name, t.parameters with
  | '@' :: _, some (c :: cs) =>
    match argument? (c :: cs) with
    | some argument => if Literal.isLiteral argument then .ok () else .error (.badArgument t)
    | none => .ok ()
  | _, _ => .ok ()

/-- The text of the parts without their tags, given the open tags with the plain forms of their
names, the last one first. -/
def shown (opened : List (String × Tag)) : List Piece → Except MarkupError (List Char)
  | [] => .ok []
  | .text cs :: rest => (shown opened rest).map (Text.replaceEmojiNames (unescape cs) ++ ·)
  | .tag t :: rest =>
    match t.name with
    | '/' :: name =>
      if (Text.stripChars name).isEmpty then
        match opened with
        | [] => .error (.unmatched t)
        | (_, last) :: others => do
          checkArgument last
          shown others rest
      else do
        let form ← plainForm (Text.stripChars name)
        match opened.find? (·.1 == form) with
        | some started => do
          checkArgument started.2
          shown (opened.eraseP (·.1 == form)) rest
        | none => .error (.unmatched t)
    | name => do
      let form ← plainForm name
      shown ((form, t) :: opened) rest

/-- Check what a tag asks for together with its parameters. -/
def checkManner : Piece → Except MarkupError Unit
  | .text _ => .ok ()
  | .tag t =>
    match t.name, t.parameters with
    | '/' :: _, _ | _, none => .ok ()
    | name, some parameters => (plainForm (name ++ ' ' :: parameters)).map fun _ => ()

/-- Whether a character is a control that is not shown. -/
def isHidden (c : Char) : Bool := [7, 8, 11, 12, 13].contains c.toNat

def plainText (markup : String) : Except MarkupError (List Char) := do
  let cs := markup.toList
  let parts := pieces [] cs.length cs
  let text ← shown [] parts
  parts.forM checkManner
  .ok (text.filter fun c => !isHidden c)

end StyleUsage.Report
