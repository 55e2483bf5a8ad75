import StyleUsage.Command.Options

/-!
# Commands and their usage

The program has four commands, each with its options and at most one argument. What a command is
to do is known before anything is done.
-/

namespace StyleUsage.Command

def programName : String := "cli"

/-- What the program tells about its version. -/
def versionLine : String := "blockref, version 0.1.0"

inductive CommandName where
  | analyze
  | digest
  | types
  | inspect
  deriving DecidableEq, Repr, Inhabited

namespace CommandName

def all : List CommandName := [.analyze, .digest, .types, .inspect]

def text : CommandName → String
  | .analyze => "analyze"
  | .digest => "digest"
  | .types => "types"
  | .inspect => "inspect"

/-- The command that a word stands for. -/
def ofText? (s : String) : Option CommandName := all.find? fun c => c.text == s

/-- The name of the argument of a command, if it takes one. -/
def argument? : CommandName → Option String
  | .analyze | .digest => some "WALK"
  | .inspect => some "ANALYSIS"
  | .types => none

end CommandName

/-! ## Options -/

def helpOption : OptionSpec := ⟨["--help"], .flag⟩

def versionOption : OptionSpec := ⟨["--version"], .flag⟩

/-- The option that names the file of the settings. -/
def configOption : OptionSpec := ⟨["--config", "-c"], .existingFile⟩

/-- The option that asks for a report of each step. -/
def verboseOption : OptionSpec := ⟨["--verbose"], .flag⟩

def formOption : OptionSpec := ⟨["--format"], .form⟩

def indentOption : OptionSpec := ⟨["--indent"], .integer⟩

/-- The option for the file of the output. -/
def outOption : OptionSpec := ⟨["--out", "-o"], .newFile⟩

def digestOption : OptionSpec := ⟨["--digest"], .flag⟩

def jsonOption : OptionSpec := ⟨["--json"], .flag⟩

/-- The options in front of the command. -/
def programOptions : List OptionSpec := [versionOption, configOption, verboseOption, helpOption]

def CommandName.options : CommandName → List OptionSpec
  | .analyze => [formOption, indentOption, outOption, digestOption, helpOption]
  | .types => [jsonOption, helpOption]
  | .digest | .inspect => [helpOption]

/-! ## Usage -/

/-- The line on the usage of the program, or of one of its commands. -/
def usageLine : Option CommandName → String
  | none => programName ++ " [OPTIONS] COMMAND [ARGS]..."
  | some c =>
    programName ++ " " ++ c.text ++ " [OPTIONS]" ++ ((c.argument?.map (" " ++ ·)).getD "")

def fullName : Option CommandName → String
  | none => programName
  | some c => programName ++ " " ++ c.text

/-- What is told about a problem with a command line. -/
def usageText (c : Option CommandName) (problem : UsageProblem) : String :=
  let usage := "Usage: " ++ usageLine c ++ "\nTry '" ++ fullName c ++ " --help' for help.\n\n"
  (if problem.isPlain then "" else usage) ++ "Error: " ++ problem.message ++ "\n"

/-- What is told about the usage of the program or of one of its commands. -/
def helpText (c : Option CommandName) : String :=
  let specs := match c with
    | none => programOptions
    | some c => c.options
  let commands := match c with
    | none => "\nCommands:\n" ++ String.join (CommandName.all.map fun c => "  " ++ c.text ++ "\n")
    | some _ => ""
  "Usage: " ++ usageLine c ++ "\n\nOptions:\n" ++
    String.join (specs.map fun s => "  " ++ ", ".intercalate s.names.reverse ++ "\n") ++ commands

/-! ## What is asked for -/

/-- The words in front of a command. -/
inductive Opening where
  | version
  | help
  /-- The file of the settings, if one is named, and the words from the command on. -/
  | proceed (config : Option Path) (words : List String)
  deriving DecidableEq, Repr

/-- What a command is to do. -/
inductive Task where
  | help
  | analyze (walk : Path) (form : Option OutputForm) (indent : Option Int) (out : Option Path)
      (showDigest : Bool)
  | digest (walk : Path)
  | types (asJson : Bool)
  | inspect (analysis : Path)
  deriving DecidableEq, Repr

def pathIn? (values : Entries String Value) (name : String) : Option Path :=
  match Entries.get? values name with
  | some (.path p) => some p
  | _ => none

def formIn? (values : Entries String Value) (name : String) : Option OutputForm :=
  match Entries.get? values name with
  | some (.form f) => some f
  | _ => none

/-- The whole number among the values. -/
def integerIn? (values : Entries String Value) (name : String) : Option Int :=
  match Entries.get? values name with
  | some (.integer i) => some i
  | _ => none

/-- Read the words in front of the command. Version and help are told before values are looked
into. -/
def readOpening (t : FileTree) (words : List String) : Except UsageProblem Opening := do
  let g ← tellApart programOptions false words
  match g.options.find? fun (s, _) => s == versionOption || s == helpOption with
  | some (s, _) => .ok (if s == versionOption then .version else .help)
  | none =>
    if words.isEmpty then .ok .help
    else
      let values ← readValues t g.options
      .ok (.proceed (pathIn? values configOption.name) g.others)

def readTask (t : FileTree) (c : CommandName) (words : List String) : Except UsageProblem Task := do
  let g ← tellApart c.options true words
  if g.options.any fun (s, _) => s == helpOption then .ok .help
  else
    let values ← readValues t g.options
    let (argument, extra) ← match c.argument? with
      | none => .ok ([], g.others)
      | some name => readArgument t name g.others
    if !extra.isEmpty then .error (.extraArguments extra)
    else
      let file := (argument.findSome? fun (name, _) => pathIn? argument name).getD default
      .ok (match c with
        | .analyze =>
          .analyze file (formIn? values formOption.name) (integerIn? values indentOption.name)
            (pathIn? values outOption.name) (Entries.has values digestOption.name)
        | .digest => .digest file
        | .types => .types (Entries.has values jsonOption.name)
        | .inspect => .inspect file)

end StyleUsage.Command
