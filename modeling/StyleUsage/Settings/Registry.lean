import StyleUsage.Settings.Basic
import StyleUsage.Template.Registry
import StyleUsage.Text.Basic

/-!
# The registry that settings ask for

Settings name constructors by the place of an object: a module, and a path of names in it. A module
is loaded when it is asked for, and that may change what other modules hold; so entries are looked
up one after another, each among the modules that those before it have left (`Modules`).

In a world of modules, a member of a module builds templates, or it is a scope that holds further
members, or both. A package holds what it says itself, and each module in it that was loaded.
-/

namespace StyleUsage

/-- Something that a module holds under a name. -/
inductive Member where
  | mk (builder : Option Constructor) (members : List (String × Member))
  deriving Inhabited

def Member.builder : Member → Option Constructor
  | .mk builder _ => builder

def Member.members : Member → List (String × Member)
  | .mk _ members => members

structure Module where
  /-- Its name: the names of the packages around it and its own, with dots between them. -/
  name : String
  /-- Whether further modules may lie in it. -/
  isPackage : Bool
  members : List (String × Member)
  deriving Inhabited

/-- All modules that there are. -/
abbrev World := List Module

/-- Why a module is not found. -/
inductive ModuleGap where
  /-- There is no module of a name, which is that of the module or of a package around it. -/
  | absent (name : String)
  /-- What should be the package around a module is none. -/
  | notAPackage (name around : String)
  deriving DecidableEq, Repr

/-- The wording of a cause. -/
def ModuleGap.message : ModuleGap → String
  | .absent name => "No module named " ++ Text.quoted name
  | .notAPackage name around =>
    "No module named " ++ Text.quoted name ++ "; " ++ Text.quoted around ++ " is not a package"

/-- What is raised when a module is loaded or a member is asked for. -/
inductive Raised where
  | noModule (cause : ModuleGap)
  | noMember
  | emptyModuleName
  /-- The name of a module starts with a dot, but there is no package that it could lie in. -/
  | relativeModule (name : String)
  /-- Whatever else a module raises. -/
  | other (message : String)
  deriving DecidableEq, Repr

def Raised.message : Raised → String
  | .noModule cause => cause.message
  | .noMember => "no such attribute"
  | .emptyModuleName => "Empty module name"
  | .relativeModule name =>
    "the 'package' argument is required to perform a relative import for " ++ Text.quoted name
  | .other message => message

/-- Why a constructor that settings ask for cannot be registered. -/
inductive RegistrationError where
  | unknownModule (name : String) (cause : ModuleGap)
  | unknownMember (moduleName path : String)
  | noConstructor (target : String)
  /-- The constructor is not that of a kind, so its type must be given. -/
  | noTypeName (target : String)
  deriving DecidableEq, Repr

/-- The wording of a cause without the details of a reader. -/
def RegistrationError.headline : RegistrationError → String
  | .unknownModule name _ => "Cannot import template type module " ++ Text.quoted name
  | .unknownMember moduleName path =>
    Text.quoted moduleName ++ " has no attribute " ++ Text.quoted path
  | .noConstructor target => target ++ " has no deserialize()"
  | .noTypeName target => target ++ " is not a TemplateInfo subclass; give an explicit type"

/-- The wording of a cause. -/
def RegistrationError.message (e : RegistrationError) : String :=
  match e with
  | .unknownModule _ cause => e.headline ++ ": " ++ cause.message
  | _ => e.headline

/-- How a registration ends without a registry. -/
inductive RegistrationFault where
  | refused (cause : RegistrationError)
  | escaped (cause : Raised)
  deriving DecidableEq, Repr

/-- While a module is loaded, only that a module is not found is caught. -/
def RegistrationFault.ofLoading (moduleName : String) : Raised → RegistrationFault
  | .noModule cause => .refused (.unknownModule moduleName cause)
  | e => .escaped e

/-- While a member is asked for, only that it is not there is caught. -/
def RegistrationFault.ofMember (moduleName path : String) : Raised → RegistrationFault
  | .noMember => .refused (.unknownMember moduleName path)
  | e => .escaped e

/-! ## Modules -/

/-- What a registration needs of modules. Loading a module leads from one state of all modules to
another. -/
structure Modules where
  State : Type
  Object : Type
  start : State
  load : String → State → Except Raised (Object × State)
  member : State → Object → String → Except Raised Object
  builder : State → Object → Option Constructor

def moduleName (target : String) : String := String.ofList (target.toList.takeWhile (· != ':'))

def memberPath (target : String) : String :=
  String.ofList ((target.toList.dropWhile (· != ':')).drop 1)

/-- The parts of a text between its dots. -/
def dotted (s : String) : List String := (Text.parts '.' s.toList).map String.ofList

namespace Modules

variable (M : Modules)

/-- The object that a target names, and the modules that are left. -/
def object (σ : M.State) (target : String) : Except RegistrationFault (M.Object × M.State) := do
  let (found, σ) ← (M.load (moduleName target) σ).mapError (.ofLoading (moduleName target))
  let object ← (dotted (memberPath target)).foldlM (fun o part =>
    (M.member σ o part).mapError (.ofMember (moduleName target) (memberPath target))) found
  .ok (object, σ)

/-- The constructor of a reference, and the type name to register it under. -/
def constructor (σ : M.State) (ref : TemplateTypeRef) :
    Except RegistrationFault ((String × Constructor) × M.State) := do
  let (object, σ) ← M.object σ ref.target
  match M.builder σ object with
  | none => .error (.refused (.noConstructor ref.target))
  | some c =>
    match ref.typeName, c.kind? with
    | some name, _ => .ok ((name, c), σ)
    | none, some kind => .ok ((kind.typeName, c), σ)
    | none, none => .error (.refused (.noTypeName ref.target))

end Modules

/-! ## Worlds of modules -/

namespace World

/-- The modules of the program itself, which are loaded from the start. -/
def builtIn : World :=
  let base := ("TemplateInfo", Member.mk (some .base) [])
  [⟨"blockref", true, []⟩, ⟨"blockref.template", true, [base]⟩,
    ⟨"blockref.template.info", false, [base]⟩]

/-- The module of a name that lies in another module, or in none. -/
def enter (w : World) (around : Option Module) (part : String) : Except ModuleGap Module :=
  let name := match around with
    | some m => m.name ++ "." ++ part
    | none => part
  match around.filter fun m => !m.isPackage, w.find? fun m => m.name == name with
  | some m, _ => .error (.notAPackage name m.name)
  | none, some found => .ok found
  | none, none => .error (.absent name)

/-- The modules that the parts of a name lead through, the packages around the last one first. -/
def way (w : World) (around : Option Module) : List String → Except ModuleGap (List Module)
  | [] => .ok []
  | part :: rest => do
    let m ← w.enter around part
    let inside ← way w (some m) rest
    .ok (m :: inside)

/-- A module, or something that a module holds. -/
inductive Item where
  | module (m : Module)
  | member (m : Member)
  deriving Inhabited

/-- Load a module and the packages around it, given the names of the modules that are loaded. -/
def load (w : World) (name : String) (loaded : List String) :
    Except Raised (Item × List String) :=
  if name.isEmpty then .error .emptyModuleName
  else if name.toList.head? == some '.' then .error (.relativeModule name)
  else match w.way none (dotted name) with
    | .error cause => .error (.noModule cause)
    | .ok modules =>
      match modules.getLast? with
      | some m => .ok (.module m, loaded ++ modules.map Module.name)
      | none => .error (.noModule (.absent name))

/-- What a module or a member holds under a name. A module that was loaded hides what the package
around it says itself. -/
def itemIn (w : World) (loaded : List String) (item : Item) (name : String) : Option Item :=
  match item with
  | .member m => (Entries.get? m.members name).map .member
  | .module m =>
    let inside := m.name ++ "." ++ name
    match loaded.contains inside, w.find? fun m => m.name == inside with
    | true, some found => some (.module found)
    | _, _ => (Entries.get? m.members name).map .member

/-- The modules of a world, of which those of the program are loaded. -/
def modules (w : World) : Modules where
  State := List String
  Object := Item
  start := builtIn.map Module.name
  load := w.load
  member := fun loaded item name =>
    match w.itemIn loaded item name with
    | some found => .ok found
    | none => .error .noMember
  builder := fun _ item =>
    match item with
    | .module _ => none
    | .member m => m.builder

end World

/-! ## Registrations -/

/-- A registry with the notices that came about while it was filled. -/
structure Registration where
  registry : Registry
  notices : List Notice
  deriving Inhabited

/-- Register the constructor of a reference. -/
def Registration.add (M : Modules) (r : Registration × M.State) (ref : TemplateTypeRef) :
    Except RegistrationFault (Registration × M.State) := do
  let ((name, c), σ) ← M.constructor r.2 ref
  .ok (⟨r.1.registry.register name c, r.1.notices ++ (r.1.registry.notice? name c).toList⟩, σ)

def Settings.registration (M : Modules) (s : Settings) : Except RegistrationFault Registration :=
  (s.templateTypes.foldlM (Registration.add M) (⟨Registry.initial, []⟩, M.start)).map Prod.fst

end StyleUsage
