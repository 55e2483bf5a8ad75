import StyleUsage.Text.Basic

/-!
# Paths

A path is kept in normal form: no empty part and no part that is a single dot. Two slashes in
front are kept, more count as one. The parts `..` stay, since what they mean depends on the files.
-/

namespace StyleUsage

inductive PathStart where
  | here
  | root
  | doubleRoot
  deriving DecidableEq, Repr, Inhabited

/-- The slashes in front of a path. -/
def PathStart.text : PathStart → String
  | .here => ""
  | .root => "/"
  | .doubleRoot => "//"

structure Path where
  start : PathStart
  parts : List String
  deriving DecidableEq, Repr, Inhabited

namespace Path

def startOf : List Char → PathStart
  | '/' :: '/' :: '/' :: _ => .root
  | '/' :: '/' :: _ => .doubleRoot
  | '/' :: _ => .root
  | _ => .here

/-- Whether a part says nothing. -/
def isIdle (part : String) : Bool := part == "" || part == "."

/-- The path that a text stands for. -/
def ofString (s : String) : Path :=
  let cs := s.toList
  ⟨startOf cs, ((Text.parts '/' cs).map String.ofList).filter fun part => !isIdle part⟩

def text (p : Path) : String :=
  if p.parts.isEmpty && p.start == .here then "."
  else p.start.text ++ "/".intercalate p.parts

/-- The last part. -/
def name (p : Path) : String := p.parts.getLast?.getD ""

/-- The path of the folder around. -/
def parent (p : Path) : Path := ⟨p.start, p.parts.dropLast⟩

def child (p : Path) (part : String) : Path := ⟨p.start, p.parts ++ [part]⟩

/-- The end of the last part from its last dot on. A dot that is its first or its last character
does not count. -/
def suffix (p : Path) : String :=
  let cs := p.name.toList
  let tail := (cs.reverse.takeWhile (· != '.')).reverse
  -- the characters in front of the last dot
  let front := cs.length - tail.length - 1
  if cs.contains '.' && 0 < front && !tail.isEmpty then String.ofList ('.' :: tail) else ""

end Path

end StyleUsage
