import StyleUsage.Yaml.Moment

/-!
# Tags and the looks of scalars

A scalar without a tag of its own is given one by its looks: null, a truth value, a whole number, a
number with a fraction part, a moment, the merge key or the value key. Everything else is a text.
-/

namespace StyleUsage.Yaml

/-- What kind of value a node is. -/
inductive Tag where
  | null
  | bool
  | int
  | float
  | binary
  | timestamp
  | omap
  | pairs
  | set
  | str
  | seq
  | map
  | merge
  | value
  /-- A tag that no plain value has. -/
  | other (uri : String)
  deriving DecidableEq, Repr, Inhabited

/-- The tags by the last part of their identifiers. -/
def standardTags : List (String × Tag) := [
  ("null", .null), ("bool", .bool), ("int", .int), ("float", .float), ("binary", .binary),
  ("timestamp", .timestamp), ("omap", .omap), ("pairs", .pairs), ("set", .set), ("str", .str),
  ("seq", .seq), ("map", .map), ("merge", .merge), ("value", .value)]

def Tag.ofUri (uri : String) : Tag :=
  match standardTags.find? fun p => "tag:yaml.org,2002:" ++ p.1 == uri with
  | some p => p.2
  | none => .other uri

/-- The name of a tag that a scalar may have, as it is written in front of it. -/
def Tag.mark (tag : Tag) : String :=
  match standardTags.find? fun p => p.2 == tag with
  | some p => "!!" ++ p.1
  | none => ""

/-! ## Patterns of scalars -/

/-- The texts that are truth values, and their values. -/
def truthWords : List (String × Bool) := [
  ("yes", true), ("Yes", true), ("YES", true), ("no", false), ("No", false), ("NO", false),
  ("true", true), ("True", true), ("TRUE", true), ("false", false), ("False", false),
  ("FALSE", false), ("on", true), ("On", true), ("ON", true), ("off", false), ("Off", false),
  ("OFF", false)]

def nullWords : List String := ["", "~", "null", "Null", "NULL"]

def isDigitOrGap (c : Char) : Bool := c.isDigit || c == '_'

/-- Whether a text is parts below sixty, each after a colon. -/
def isSixtiesAfter : List Char → Bool
  | [':', a] => a.isDigit
  | [':', a, b] => a.isDigit && a ≤ '5' && b.isDigit
  | ':' :: a :: ':' :: rest => a.isDigit && isSixtiesAfter (':' :: rest)
  | ':' :: a :: b :: rest => a.isDigit && a ≤ '5' && b.isDigit && isSixtiesAfter rest
  | _ => false

/-- Whether a text is a whole number in one of the five forms: binary, octal, decimal,
hexadecimal, or base sixty with colons. -/
def looksInt (cs : List Char) : Bool :=
  let body := (Text.splitSign cs).2
  match body with
  | '0' :: 'b' :: d :: rest => (d :: rest).all fun c => c == '0' || c == '1' || c == '_'
  | '0' :: 'x' :: d :: rest =>
    (d :: rest).all fun c => c.isDigit || ('a' ≤ c && c ≤ 'f') || ('A' ≤ c && c ≤ 'F') || c == '_'
  | ['0'] => true
  | '0' :: rest => rest.all fun c => ('0' ≤ c && c ≤ '7') || c == '_'
  | d :: rest =>
    d.isDigit &&
      (rest.all isDigitOrGap || isSixtiesAfter (rest.dropWhile isDigitOrGap))
  | [] => false

def isExponent : List Char → Bool
  | e :: sign :: d :: rest =>
    (e == 'e' || e == 'E') && (sign == '-' || sign == '+') && (d :: rest).all Char.isDigit
  | _ => false

/-- Whether a text is nothing or an exponent. -/
def isExponentOrEmpty (cs : List Char) : Bool := cs.isEmpty || isExponent cs

/-- Whether a text is colons with parts below sixty, then a point and a fraction. -/
def isSixtiesWithPoint (cs : List Char) : Bool :=
  let whole := cs.takeWhile (· != '.')
  match cs.dropWhile (· != '.') with
  | '.' :: fraction => isSixtiesAfter whole && fraction.all isDigitOrGap
  | _ => false

/-- Whether a text is a number with a fraction part, an infinity or no number. -/
def looksFloat (cs : List Char) : Bool :=
  let body := (Text.splitSign cs).2
  let infinite := ["inf", "Inf", "INF"].any fun w => body == '.' :: w.toList
  let none := ["nan", "NaN", "NAN"].any fun w => cs == '.' :: w.toList
  let fraction :=
    match cs with
    | '.' :: d :: rest => d.isDigit && isExponentOrEmpty (rest.dropWhile isDigitOrGap)
    | _ => false
  let pointed :=
    match body with
    | d :: rest =>
      d.isDigit &&
        (match rest.dropWhile isDigitOrGap with
          | '.' :: after => isExponentOrEmpty (after.dropWhile isDigitOrGap)
          | ':' :: after => isSixtiesWithPoint (':' :: after)
          | _ => false)
    | [] => false
  infinite || none || fraction || pointed

/-- The marks in front of tags, anchors and aliases, which are no values on their own. -/
def loneMarks : List String := ["!", "&", "*"]

/-- The tag of a scalar by its looks. A line feed at its end does not matter, unless there is
nothing else. -/
def resolve (text : String) : Tag :=
  let cs := dropLastBreak text.toList
  let word := String.ofList cs
  if text == "\n" then .str
  else if nullWords.contains word then .null
  else if (truthWords.lookup word).isSome then .bool
  else if looksFloat cs then .float
  else if looksInt cs then .int
  else if word == "<<" then .merge
  else if (readMoment? true cs).isSome then .timestamp
  else if word == "=" then .value
  else if loneMarks.contains word then .other "tag:yaml.org,2002:yaml"
  else .str

end StyleUsage.Yaml
