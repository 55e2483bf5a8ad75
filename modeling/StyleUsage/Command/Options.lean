import StyleUsage.Analysis.Rendering
import StyleUsage.File.Tree
import StyleUsage.Text.Basic
import StyleUsage.Text.Digits
import StyleUsage.Text.Quoted
import StyleUsage.Text.Similar

/-!
# Options of a command line

A command takes options and arguments. First the words of the command line are told apart, then the
values are read in the order in which their options first occur. Of an option that is given several
times the last value counts.
-/

namespace StyleUsage.Command

/-- What kind of value an option or an argument takes. -/
inductive ValueKind where
  /-- An option without a value. -/
  | flag
  /-- The path of a file that is there. -/
  | existingFile
  /-- The path of a file that may be there. -/
  | newFile
  | form
  | integer
  deriving DecidableEq, Repr, Inhabited

/-- A value that was read. -/
inductive Value where
  | flag
  | path (p : Path)
  | form (f : OutputForm)
  | integer (i : Int)
  deriving DecidableEq, Repr, Inhabited

/-- An option of a command. -/
structure OptionSpec where
  /-- Its names; it goes by the first one. -/
  names : List String
  kind : ValueKind
  deriving DecidableEq, Repr, Inhabited

def OptionSpec.name (s : OptionSpec) : String := s.names.headD ""

def OptionSpec.takesValue (s : OptionSpec) : Bool := s.kind != .flag

/-- What is wrong with a value. -/
inductive ValueProblem where
  | noFile (text : String)
  | isFolder (text : String)
  | notAChoice (text : String) (choices : List String)
  | notAnInteger (text : String)
  deriving DecidableEq, Repr

def ValueProblem.message : ValueProblem → String
  | .noFile text => "File " ++ Text.quoted text ++ " does not exist."
  | .isFolder text => "File " ++ Text.quoted text ++ " is a directory."
  | .notAChoice text choices =>
    Text.quoted text ++ " is not one of " ++ ", ".intercalate (choices.map Text.quoted) ++ "."
  | .notAnInteger text => Text.quoted text ++ " is not a valid integer."

/-- What is wrong with a command line. -/
inductive UsageProblem where
  | unknownOption (name : String) (similar : List String)
  | valueNotTaken (name : String)
  | valueMissing (name : String)
  /-- A value that does not do, with the names of what it was given for. -/
  | badValue (names : List String) (problem : ValueProblem)
  | argumentMissing (name : String)
  | extraArguments (arguments : List String)
  | commandMissing
  | unknownCommand (name : String)
  deriving DecidableEq, Repr

def UsageProblem.message : UsageProblem → String
  | .unknownOption name similar =>
    "No such option: " ++ name ++
      match similar with
      | [] => ""
      | [s] => " Did you mean " ++ s ++ "?"
      | several => " (Possible options: " ++ ", ".intercalate several.mergeSort ++ ")"
  | .valueNotTaken name => "Option " ++ Text.quoted name ++ " does not take a value."
  | .valueMissing name => "Option " ++ Text.quoted name ++ " requires an argument."
  | .badValue names problem =>
    "Invalid value for " ++ " / ".intercalate (names.map fun n => "'" ++ n ++ "'") ++ ": " ++
      problem.message
  | .argumentMissing name => "Missing argument '" ++ name ++ "'."
  | .extraArguments arguments =>
    "Got unexpected extra argument" ++ (if arguments.length = 1 then "" else "s") ++
      " (" ++ " ".intercalate arguments ++ ")"
  | .commandMissing => "Missing command."
  | .unknownCommand name => "No such command " ++ Text.quoted name ++ "."

/-- Whether a problem is told without a word on the usage. -/
def UsageProblem.isPlain : UsageProblem → Bool
  | .valueNotTaken _ | .valueMissing _ => true
  | _ => false

/-! ## Telling words apart -/

/-- The words of a command line: options with the texts of their values, and other words. -/
structure Given where
  options : List (OptionSpec × String)
  others : List String
  deriving Inhabited

def optionNamed? (specs : List OptionSpec) (name : String) : Option OptionSpec :=
  specs.find? fun s => s.names.contains name

/-- The names of options that start with two dashes. -/
def longNames (specs : List OptionSpec) : List String :=
  (specs.flatMap OptionSpec.names).filter fun name => ['-', '-'].isPrefixOf name.toList

/-- An option with two dashes; the word after it is `next`. Tells also whether that word was its
value. -/
def longOption (specs : List OptionSpec) (word : List Char) (next : Option String) :
    Except UsageProblem ((OptionSpec × String) × Bool) :=
  let name := String.ofList (word.takeWhile (· != '='))
  let attached : Option String :=
    if word.contains '=' then some (String.ofList ((word.dropWhile (· != '=')).drop 1)) else none
  match optionNamed? specs name with
  | none => .error (.unknownOption name (Text.similarTo name (longNames specs)))
  | some s =>
    match s.takesValue, attached, next with
    | false, none, _ => .ok ((s, ""), false)
    | false, some _, _ => .error (.valueNotTaken name)
    | true, some v, _ => .ok ((s, v), false)
    | true, none, some v => .ok ((s, v), true)
    | true, none, none => .error (.valueMissing name)

/-- Options of one letter in one word, after its dash; a value takes the rest of the word, or else
the word after it. -/
def shortOptions (specs : List OptionSpec) (next : Option String) :
    List Char → Except UsageProblem (List (OptionSpec × String) × Bool)
  | [] => .ok ([], false)
  | c :: rest =>
    let name := String.ofList ['-', c]
    match optionNamed? specs name with
    | none => .error (.unknownOption name [])
    | some s =>
      if s.takesValue then
        match rest, next with
        | [], none => .error (.valueMissing name)
        | [], some v => .ok ([(s, v)], true)
        | rest, _ => .ok ([(s, String.ofList rest)], false)
      else (shortOptions specs next rest).map fun (more, took) => ((s, "") :: more, took)

/-- Tell the words of a command line apart. Without `mixed`, all words after the first that is no
option are others. -/
def tellApart (specs : List OptionSpec) (mixed : Bool) : List String → Except UsageProblem Given
  | [] => .ok ⟨[], []⟩
  | word :: rest => do
    let addTo (options : List (OptionSpec × String)) (g : Given) : Given :=
      { g with options := options ++ g.options }
    match word.toList with
    | ['-', '-'] => .ok ⟨[], rest⟩
    | '-' :: '-' :: _ =>
      match ← longOption specs word.toList rest.head?, rest with
      | (option, true), _ :: rest => (tellApart specs mixed rest).map (addTo [option])
      | (option, _), rest => (tellApart specs mixed rest).map (addTo [option])
    | '-' :: c :: letters =>
      match ← shortOptions specs rest.head? (c :: letters), rest with
      | (options, true), _ :: rest => (tellApart specs mixed rest).map (addTo options)
      | (options, _), rest => (tellApart specs mixed rest).map (addTo options)
    | _ =>
      if mixed then
        (tellApart specs mixed rest).map fun g => { g with others := word :: g.others }
      else .ok ⟨[], word :: rest⟩

/-! ## Reading values -/

/-- Whether a text is digits with single underscores between them. -/
def isGroupedDigits : List Char → Bool
  | [] => false
  | [c] => c.isDigit
  | '_' :: _ => false
  | c :: '_' :: rest => c.isDigit && isGroupedDigits rest
  | c :: rest => c.isDigit && isGroupedDigits rest

/-- The whole number that a text stands for, blanks around it aside. -/
def readInteger? (text : String) : Option Int :=
  let (negative, body) := Text.splitSign ((Text.stripChars text.toList).map Text.plainDigit)
  if isGroupedDigits body then
    let n : Int := Text.digitsValue (body.filter (· != '_'))
    some (if negative then -n else n)
  else none

def readValue (t : FileTree) (kind : ValueKind) (text : String) : Except ValueProblem Value :=
  let path := Path.ofString text
  match kind with
  | .flag => .ok .flag
  | .existingFile =>
    match t.named? text with
    | some (.file _) => .ok (.path path)
    | some .folder => .error (.isFolder text)
    | none => .error (.noFile text)
  | .newFile =>
    match t.named? text with
    | some .folder => .error (.isFolder text)
    | _ => .ok (.path path)
  | .form =>
    match OutputForm.ofName? text with
    | some f => .ok (.form f)
    | none => .error (.notAChoice text (OutputForm.all.map OutputForm.name))
  | .integer =>
    match readInteger? text with
    | some i => .ok (.integer i)
    | none => .error (.notAnInteger text)

def readValues (t : FileTree) (options : List (OptionSpec × String)) :
    Except UsageProblem (Entries String Value) :=
  let last : Entries OptionSpec String := Entries.ofPairs options
  last.mapM fun (s, text) =>
    match readValue t s.kind text with
    | .ok v => .ok (s.name, v)
    | .error e => .error (.badValue s.names e)

/-- Read the only argument of a command, under its name. -/
def readArgument (t : FileTree) (name : String) (others : List String) :
    Except UsageProblem (Entries String Value × List String) :=
  match others with
  | [] => .error (.argumentMissing name)
  | text :: rest =>
    match readValue t .existingFile text with
    | .ok v => .ok ([(name, v)], rest)
    | .error e => .error (.badValue [name] e)

end StyleUsage.Command
