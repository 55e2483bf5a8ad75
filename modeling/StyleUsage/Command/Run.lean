import StyleUsage.Analysis.Record
import StyleUsage.Command.Usage
import StyleUsage.Report.Console
import StyleUsage.Settings.Discovery
import StyleUsage.Settings.Registry
import StyleUsage.Walk.File
import StyleUsage.Walk.Replay
import StyleUsage.Yaml.Value
import StyleUsage.Yaml.Writer

/-!
# Running commands

A run of the program is a function of the words of its command line, the files that it sees, the
modules that settings may name, and the libraries that it uses. Its outcome is an exit code, what it
prints, and what it makes and writes. Most faults are told on the error output; a few are not
expected, and end the run as they are.
-/

namespace StyleUsage.Command

/-- The libraries that a run uses. What they do is their own; a run does not depend on how. -/
structure Libraries where
  readYaml : String → Except Yaml.YamlError Datum
  writeYaml : Datum → Except Datum.WritingError String
  console : Report.Console

/-- The libraries that are used where nothing else is said. -/
def Libraries.standard : Libraries := ⟨Yaml.read, fun d => .ok (Yaml.write d), .standard⟩

/-- A fault that no command expects. -/
inductive Unexpected where
  | settings (cause : SettingsError)
  | registration (cause : Raised)
  | reading (path : Path) (cause : ReadingError)
  | template (cause : DescriptorError)
  | value (cause : Yaml.YamlError)
  | writing (cause : Datum.WritingError)
  | markup (cause : Report.MarkupError)
  /-- A folder cannot be made, as a file stands at its place. -/
  | fileInTheWay (place : Path)
  /-- A folder cannot be made, as a file stands at the place of a folder around it. -/
  | notAFolder (place : Path)
  | folderInTheWay (place : Path)

/-- The wording of an unexpected fault. -/
def Unexpected.message : Unexpected → String
  | .settings cause => cause.message
  | .registration cause => cause.message
  | .reading path cause => cause.message path
  | .template cause => cause.message
  | .value cause => cause.message
  | .writing cause => cause.message
  | .markup cause => cause.message
  | .fileInTheWay place => "[Errno 17] File exists: " ++ Text.quoted place.text
  | .notAFolder place => "[Errno 20] Not a directory: " ++ Text.quoted place.text
  | .folderInTheWay place => "[Errno 21] Is a directory: " ++ Text.quoted place.text

/-- Why a run ends early. -/
inductive Failure where
  | usage (command : Option CommandName) (problem : UsageProblem)
  | told (message : String)
  | unexpected (cause : Unexpected)

/-- A fault of an input that is told. -/
def Failure.invalid (message : String) : Failure := .told ("Invalid input: " ++ message)

/-- What a run has printed, made and written. -/
structure Transcript where
  output : String
  errors : String
  /-- The folders that were made, in order. -/
  folders : List Place
  /-- The texts that were written to files, in order. -/
  written : List (Place × String)
  deriving DecidableEq, Repr, Inhabited

/-- What a run leads to. -/
structure Outcome where
  exitCode : Nat
  transcript : Transcript
  unexpected : Option Unexpected

/-- The written files in the home folder that were not there before the run. -/
def Outcome.made (t : FileTree) (o : Outcome) : List (Path × String) :=
  (o.transcript.written.filter fun (place, _) => t.home.isPrefixOf place && !t.isFile place).map
    fun (place, s) => (t.pathTo place, s)

abbrev Run := ExceptT Failure (StateM Transcript)

namespace Run

def print (s : String) : Run Unit := modify fun t => { t with output := t.output ++ s }

def printError (s : String) : Run Unit := modify fun t => { t with errors := t.errors ++ s }

def makeFolders (places : List Place) : Run Unit :=
  modify fun t => { t with folders := t.folders ++ places }

def write (place : Place) (content : String) : Run Unit :=
  modify fun t => { t with written := t.written ++ [(place, content)] }

/-- Go on with a result, or end the run with what its fault is for it. -/
def require {ε α : Type} (failure : ε → Failure) (result : Except ε α) : Run α :=
  match result with
  | .ok a => pure a
  | .error e => throw (failure e)

def markupFailure : Report.MarkupError → Failure
  | .missingNumber => .invalid (Report.MarkupError.missingNumber.message)
  | e => .unexpected (.markup e)

variable (console : Report.Console)

def paragraph (markup : String) : Run Unit := do
  print (console.paragraph (← require markupFailure (console.markup markup)))

def errorParagraph (markup : String) : Run Unit := do
  printError (console.paragraph (← require markupFailure (console.markup markup)))

/-- Print a table with markup. -/
def table (t : Report.Table) : Run Unit := do
  print (console.table (← require markupFailure (console.shownTable t)))

end Run

/-! ## Parts of commands -/

/-- A fault of a file that a command reads. -/
def readingFailure (path : Path) : ReadingError → Failure
  | .notText fault => .invalid fault.message
  | cause => .unexpected (.reading path cause)

/-- A fault of a template that cannot be rebuilt. -/
def templateFailure (cause : DescriptorError) : Failure :=
  if cause.escapes then .unexpected (.template cause) else .told cause.message

def walkFailure : WalkFileError → Failure
  | .loneHalf cause => .invalid cause.message
  | .badValue (.outOfRange reason) => .invalid reason
  | .badValue cause => .unexpected (.value cause)
  | e => .told e.message

/-- A fault of a walk script that cannot be replayed. -/
def replayFailure : ReplayError → Failure
  | .template cause => templateFailure cause
  | e => .told e.message

/-- The analysis of the walk script in a file, with its template and its summary. -/
def analyzeFile (L : Libraries) (t : FileTree) (r : Registry) (walk : Path) :
    Run (TemplateInfo × Summary) := do
  let text ← Run.require (readingFailure walk) (t.read walk)
  let script ← Run.require walkFailure (WalkScript.ofText L.readYaml walk text)
  let analysis ← Run.require replayFailure (script.replay r)
  return (analysis.template, analysis.summarize script.catalog)

/-- A fault of a value that cannot be written. -/
def writingFailure : Datum.WritingError → Failure
  | .endless => .invalid Datum.WritingError.endless.message
  | e => .unexpected (.writing e)

/-- The folders that are still to be made on a way up to the first file on it. -/
def missingFolders (t : FileTree) (way : List Place) : List Place :=
  ((way.takeWhile fun place => !t.isFile place).filter
    fun place => (t.atPlace place).isNone).eraseDups

/-- Make the folders that a path leads through, and give those that were missing. A file on the way
is met at once if no folder in front of it is missing, else when all of these are made. -/
def makeWay (t : FileTree) (p : Path) : Run (List Place) := do
  let way := t.wayOf p
  let missing := missingFolders t way
  let clear := (way.takeWhile fun place => !t.isFile place).length
  if missing.isEmpty ∧ clear + 1 < way.length then throw (.unexpected (.notAFolder p))
  Run.makeFolders missing
  if clear < way.length then
    throw (.unexpected (.fileInTheWay ⟨p.start, p.parts.take clear⟩))
  return missing

/-- Write a file, and make the folders on its way. -/
def writeFile (t : FileTree) (p : Path) (content : String) : Run Unit := do
  let made ← makeWay t p.parent
  let place := t.place p
  if t.atPlace place == some .folder || made.contains place then
    throw (.unexpected (.folderInTheWay p))
  Run.write place content

/-! ## Commands -/

variable (L : Libraries)

/-- Replay a walk and print its summary or write it to a file. -/
def analyze (t : FileTree) (s : Settings) (r : Registry) (walk : Path) (form : Option OutputForm)
    (indent : Option Int) (out : Option Path) (showDigest : Bool) : Run Unit := do
  let (template, summary) ← analyzeFile L t r walk
  let text ← Run.require writingFailure
    (render L.writeYaml (form.getD s.form) (indent.getD s.indent) summary.toDatum)
  match out with
  | some p =>
    writeFile t p text
    Run.errorParagraph L.console
      ("Wrote analysis of " ++ template.identifier.display ++ " to " ++ p.text)
  | none => Run.print text
  if showDigest then
    let digest ← Run.require writingFailure summary.digest
    Run.errorParagraph L.console ("sha256:" ++ digest)

/-- Replay a walk and print the digest of its summary. -/
def digest (t : FileTree) (r : Registry) (walk : Path) : Run Unit := do
  let (_, summary) ← analyzeFile L t r walk
  let digest ← Run.require writingFailure summary.digest
  Run.print (digest ++ "\n")

def types (r : Registry) (asJson : Bool) : Run Unit := do
  if asJson then
    let entries := r.listing.map fun (name, label) =>
      Json.obj [("type", .str name), ("constructor", .str label)]
    Run.print ((Json.arr entries).indentedAscii 2 ++ "\n")
  else
    Run.table L.console {
      title := "Template Info Types"
      columns := [⟨"Type", .left⟩, ⟨"Constructor", .left⟩]
      rows := r.listing.map fun (name, label) => [name, label] }
    Run.paragraph L.console ("\n[dim]Total: " ++ toString r.listing.length ++ " types[/dim]")

/-- A fault of a record that cannot be read. -/
def recordFailure : RecordError → Failure
  | .template cause => templateFailure cause
  | e => .invalid e.message

/-- Print what a summary in a file says. -/
def inspect (t : FileTree) (r : Registry) (file : Path) : Run Unit := do
  let text ← Run.require (readingFailure file) (t.read file)
  let j ← Run.require (fun e => .invalid e.message) (Json.read text)
  let record ← Run.require recordFailure (Record.read r (.ofJson j))
  Run.paragraph L.console ("[bold]" ++ record.template.identifier.display ++ "[/bold] [dim](" ++
    record.template.describe.type ++ ")[/dim]")
  Run.table L.console {
    title := "Blocks"
    columns := [⟨"Local name", .left⟩, ⟨"Source", .left⟩]
    rows := record.blocks.map fun (name, source) => [name, source] }
  Run.table L.console {
    title := "Styles Found"
    columns := [⟨"#", .right⟩, ⟨"Style", .left⟩, ⟨"Dynamic", .left⟩]
    rows := record.stylesFound.mapIdx fun n name =>
      [toString n, name, if record.dynamicStyles.contains n then "Yes" else "No"] }
  if record.correlationNames.isEmpty then
    Run.paragraph L.console "[dim]No correlations of two or more styles[/dim]"
  else
    Run.paragraph L.console "[bold]Correlations[/bold]"
    record.correlationNames.forM fun names =>
      Run.paragraph L.console ("  " ++ " + ".intercalate names)

/-! ## The program -/

def settingsFailure (e : SettingsError) : Failure :=
  if e.escapes then .unexpected (.settings e) else .told e.message

def registrationFailure : RegistrationFault → Failure
  | .refused e => .told e.message
  | .escaped cause => .unexpected (.registration cause)

/-- The settings that apply: those of a named file, or of the nearest one that is found. -/
def settings (t : FileTree) (config : Option Path) : Run Settings := do
  let path ← match config with
    | some path => pure (some path)
    | none => do
      let place ← Run.require settingsFailure (Settings.find? t (.ofString "."))
      pure (place.map FileTree.absolute)
  match path with
  | none => pure Settings.default
  | some path => Run.require settingsFailure (Settings.load t path)

/-- The registry that settings ask for; notices are not told. -/
def registry (M : Modules) (s : Settings) : Run Registry := do
  return (← Run.require registrationFailure (s.registration M)).registry

def perform (M : Modules) (t : FileTree) (s : Settings) (c : CommandName) : Task → Run Unit
  | .help => Run.print (helpText (some c))
  | .analyze walk form indent out showDigest => do
    analyze L t s (← registry M s) walk form indent out showDigest
  | .digest walk => do digest L t (← registry M s) walk
  | .types asJson => do types L (← registry M s) asJson
  | .inspect file => do inspect L t (← registry M s) file

def program (M : Modules) (t : FileTree) (words : List String) : Run Unit := do
  match ← Run.require (.usage none) (readOpening t words) with
  | .version => Run.print (versionLine ++ "\n")
  | .help => Run.print (helpText none)
  | .proceed _ [] => throw (.usage none .commandMissing)
  | .proceed config (word :: rest) =>
    match CommandName.ofText? word with
    | none =>
      -- behind two dashes there may still be options in front of the command
      match ← Run.require (.usage none) (readOpening t (word :: rest)) with
      | .version => Run.print (versionLine ++ "\n")
      | .help => Run.print (helpText none)
      | .proceed .. => throw (.usage none (.unknownCommand word))
    | some c =>
      let s ← settings t config
      let task ← Run.require (.usage (some c)) (readTask t c rest)
      perform L M t s c task

def outcome : Except Failure Unit × Transcript → Outcome
  | (.ok (), t) => ⟨0, t, none⟩
  | (.error (.usage c problem), t) =>
    ⟨2, { t with errors := t.errors ++ usageText c problem }, none⟩
  | (.error (.told message), t) =>
    ⟨1, { t with errors := t.errors ++ "Error: " ++ message ++ "\n" }, none⟩
  | (.error (.unexpected cause), t) => ⟨1, t, some cause⟩

def run (M : Modules) (t : FileTree) (words : List String) : Outcome :=
  outcome ((program L M t words).run ⟨"", "", [], []⟩)

end StyleUsage.Command
