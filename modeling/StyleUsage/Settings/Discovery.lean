import StyleUsage.File.Tree
import StyleUsage.Settings.Basic

/-!
# Where settings are found

The settings that apply at a place are those of the nearest folder around it that has some: in a
file of their own, or else as a table of a shared file. A shared file that is not TOML, or that has
no such table, is passed over; one whose bytes are no text ends the search.
-/

namespace StyleUsage

namespace Settings

/-- The name of a file that holds nothing but settings. -/
def ownName : String := "blockref.toml"

/-- Whether the text of a shared file has a table of settings. -/
def hasTable (text : String) : Bool :=
  match Toml.read text with
  | .error _ => false
  | .ok document =>
    match document.field? "tool" with
    | some tools => (tools.field? "blockref").isSome
    | none => false

def inFolder? (t : FileTree) (folder : Place) : Except SettingsError (Option Place) :=
  let own := folder ++ [ownName]
  let shared := folder ++ [sharedName]
  match t.atPlace own, t.atPlace shared with
  | some (.file _), _ => .ok (some own)
  | _, some (.file content) =>
    match Text.ofBytes content with
    | .ok text => .ok (if hasTable text then some shared else none)
    -- only a text that is no TOML is passed over
    | .error fault => .error (.notText fault)
  | _, _ => .ok none

/-- The file of the settings that apply where a path leads to. -/
def find? (t : FileTree) (start : Path) : Except SettingsError (Option Place) :=
  (t.place start).around.findSomeM? (inFolder? t)

def load (t : FileTree) (path : Path) : Except SettingsError Settings := do
  let text ← (t.read path).mapError (SettingsError.ofReading path)
  ofText path text

end Settings

end StyleUsage
