import StyleUsage.Text.Basic
import StyleUsage.Text.EmojiNames
import StyleUsage.Text.Lowercase

/-!
# Emoji in place of their names

A name between colons stands for an emoji. Case does not matter. A name of people may ask for a tone
of skin, and any name for the colourful or the plain form of its emoji.
-/

namespace StyleUsage.Text

/-- The tones of skin, and the characters that give a person a tone. -/
def skinTones : List (String × Char) := [
  ("_light_skin_tone", '🏻'), ("_medium-light_skin_tone", '🏼'),
  ("_medium_skin_tone", '🏽'), ("_medium-dark_skin_tone", '🏾'),
  ("_dark_skin_tone", '🏿')]

/-- The ends of a name that ask for a form of the emoji, and the characters that select it. -/
def emojiForms : List (String × Char) := [("-emoji", '\uFE0F'), ("-text", '\uFE0E')]

/-- The rest of a name in front of one of several ends, and what the end stands for. -/
def splitEnding? (endings : List (String × Char)) (name : List Char) :
    Option (List Char × Char) :=
  endings.findSome? fun (ending, c) =>
    if ending.toList.isSuffixOf name then some (name.take (name.length - ending.length), c)
    else none

/-- What follows a name in a list of names and what they stand for, in turn. -/
def following? (name : List Char) : List (List Char) → Option (List Char)
  | word :: image :: rest => if word = name then some image else following? name rest
  | _ => none

/-- The emoji of a name, from one of several lines. -/
def lineEmoji? (lines : List String) (name : List Char) : Option (List Char) :=
  lines.findSome? fun line => following? name (parts ' ' line.toList)

/-- An emoji with a tone of skin, which takes the place of the selector of a form. -/
def withTone (tone : Char) : List Char → List Char
  | c :: '\uFE0F' :: rest => c :: tone :: rest
  | c :: rest => c :: tone :: rest
  | [] => []

/-- The emoji that a name in small letters stands for. -/
def emoji? (name : List Char) : Option (List Char) :=
  ((lineEmoji? thingNames name).or (lineEmoji? peopleNames name)).or
    ((splitEnding? skinTones name).bind fun (person, tone) =>
      (lineEmoji? peopleNames person).map (withTone tone))

/-- What stands for a name between colons: an emoji, or the name as it is. -/
def emojiFor (name : List Char) : List Char :=
  let (base, form) := match splitEnding? emojiForms name with
    | some (base, c) => (base, [c])
    | none => (name, [])
  match emoji? (lower base) with
  | some image => image ++ form
  | none => ':' :: name ++ [':']

def isEmoji (name : List Char) : Bool := emojiFor name != ':' :: name ++ [':']

/-- The text that is made of parts with colons between them, emoji in place of their names. A name
has no blanks; of two names that share a colon the first one counts. -/
def joinWithEmoji : List (List Char) → List Char
  | [] => []
  | [text] => text
  | [text, last] => text ++ ':' :: last
  | text :: name :: next :: rest =>
    if name.any isBlank then text ++ ':' :: joinWithEmoji (name :: next :: rest)
    else text ++ emojiFor name ++ joinWithEmoji (next :: rest)

def replaceEmojiNames (cs : List Char) : List Char := joinWithEmoji (parts ':' cs)

end StyleUsage.Text
