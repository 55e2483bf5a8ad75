import StyleUsage.Command.Run

/-!
# The program

The words of the command line, the files that they name and the files of settings around the working
folder are looked up; what is to be done with them is decided by `Command.run`.
-/

namespace StyleUsage

/-- What stands where a path leads to. -/
def look (p : Path) : IO (Option Found) := do
  try
    return some (.file (← IO.FS.readBinFile p.text))
  catch
    | .inappropriateType .. => return some .folder
    | _ => return none

def addSeen (t : FileTree) (p : Path) : IO FileTree := do
  match ← look p with
  | some (.file content) => return t.addFile (t.place p) content
  | some .folder => return t.addFolder (t.place p)
  | none => return t

/-- The texts in a word that may name a file. -/
def candidates (word : String) : List String :=
  let cs := word.toList
  [word, .ofList ((cs.dropWhile (· != '=')).drop 1), .ofList (cs.drop 2)]

/-- The path of a text and the paths of the folders on its way. -/
def steps (text : String) : List Path :=
  let p := Path.ofString text
  (List.range (p.parts.length + 1)).map fun n => ⟨p.start, p.parts.take n⟩

/-- The files that a run may ask for. -/
def seen (words : List String) : IO FileTree := do
  let home := (Path.ofString ((← IO.getEnv "PWD").getD "/")).parts
  let settings := (Place.around home).flatMap fun folder =>
    [Settings.ownName, Settings.sharedName].map fun name => (⟨.root, folder ++ [name]⟩ : Path)
  let named := (words.flatMap candidates).flatMap steps
  (settings ++ named).foldlM addSeen (.empty home)

end StyleUsage

open StyleUsage in
/-- Run the program on the words of the command line. -/
def main (words : List String) : IO UInt32 := do
  let outcome := Command.run .standard World.builtIn.modules (← seen words) words
  for place in outcome.transcript.folders do
    IO.FS.createDirAll (FileTree.absolute place).text
  for (place, content) in outcome.transcript.written do
    IO.FS.writeFile (FileTree.absolute place).text content
  IO.print outcome.transcript.output
  IO.eprint outcome.transcript.errors
  if let some cause := outcome.unexpected then IO.eprintln cause.message
  return outcome.exitCode.toUInt32
