import StyleUsage.Collection.Entries
import StyleUsage.File.Path
import StyleUsage.Text.Quoted

/-!
# Trees of files

A tree holds the bytes of files and the folders around them, each at its place, which is the list
of the names from the root on. One of the folders is the one in which a program works; paths
without a slash in front start there. A file is read as text if its bytes are UTF-8.
-/

namespace StyleUsage

abbrev Place := List String

/-- A place and the folders around it, from the place itself up to the root. -/
def Place.around (place : Place) : List Place :=
  ((List.range (place.length + 1)).map fun n => place.take n).reverse

/-- Files and folders at their places. -/
structure FileTree where
  /-- The folder where paths start. -/
  home : Place
  files : Entries Place ByteArray
  folders : List Place
  deriving Inhabited

/-- What stands at a place. -/
inductive Found where
  | file (content : ByteArray)
  | folder
  deriving Inhabited

instance : DecidableEq Found
  | .file a, .file b => decidable_of_iff (a.data = b.data) (by simp [ByteArray.ext_iff])
  | .file _, .folder => isFalse nofun
  | .folder, .file _ => isFalse nofun
  | .folder, .folder => isTrue rfl

/-- Why no text can be read where a path leads to. -/
inductive ReadingError where
  | missing
  /-- A part of the path in front of another one is a file. -/
  | notAFolder
  | folder
  /-- The bytes of the file are not UTF-8. -/
  | notText (fault : Text.CodingFault)
  deriving DecidableEq, Repr

/-- The wording of a cause for a path. -/
def ReadingError.message (path : Path) : ReadingError → String
  | .missing => "[Errno 2] No such file or directory: " ++ Text.quoted path.text
  | .notAFolder => "[Errno 20] Not a directory: " ++ Text.quoted path.text
  | .folder => "[Errno 21] Is a directory: " ++ Text.quoted path.text
  | .notText fault => fault.message

namespace FileTree

/-- A tree that has only the folder where paths start. -/
def empty (home : Place) : FileTree := ⟨home, [], Place.around home⟩

def addFolder (t : FileTree) (place : Place) : FileTree :=
  { t with folders := t.folders ++ Place.around place }

def addFile (t : FileTree) (place : Place) (content : ByteArray) : FileTree :=
  { t.addFolder place.dropLast with files := Entries.put t.files place content }

def atPlace (t : FileTree) (place : Place) : Option Found :=
  match Entries.get? t.files place with
  | some content => some (.file content)
  | none => if t.folders.contains place then some .folder else none

def isFile (t : FileTree) (place : Place) : Bool := Entries.has t.files place

/-- Go along the parts of a path without a look at what is there; two dots lead to the folder
around. -/
def follow : Place → List String → Place
  | place, [] => place
  | place, part :: rest => follow (if part = ".." then place.dropLast else place ++ [part]) rest

/-- The places that parts lead through from a place on, one after another; the last one is the place
that they lead to. -/
def way : Place → List String → List Place
  | place, [] => [place]
  | place, part :: rest => place :: way (follow place [part]) rest

def startOf (t : FileTree) (p : Path) : Place :=
  match p.start with
  | .here => t.home
  | _ => []

def place (t : FileTree) (p : Path) : Place := follow (t.startOf p) p.parts

def wayOf (t : FileTree) (p : Path) : List Place := way (t.startOf p) p.parts

/-- Whether every part of a path in front of another part leads to a folder. -/
def passable (t : FileTree) : Place → List String → Bool
  | _, [] => true
  | place, part :: rest =>
    t.atPlace place == some .folder && passable t (follow place [part]) rest

/-- What stands where a path leads to. -/
def find? (t : FileTree) (p : Path) : Option Found :=
  if t.passable (t.startOf p) p.parts then t.atPlace (t.place p) else none

/-- What stands where a text leads to as a path. No text leads to nothing, and a text that ends in a
slash or in a single dot as its last part leads to folders only. -/
def named? (t : FileTree) (text : String) : Option Found :=
  let last := String.ofList ((Text.parts '/' text.toList).getLast?.getD [])
  match t.find? (.ofString text) with
  | some (.file content) => if Path.isIdle last then none else some (.file content)
  | found => if text.isEmpty then none else found

def absolute (place : Place) : Path := ⟨.root, place⟩

def pathTo (t : FileTree) (place : Place) : Path :=
  if t.home.isPrefixOf place then ⟨.here, place.drop t.home.length⟩ else absolute place

/-- Whether the first part of a path that leads to no folder leads to a file. -/
def isBarred (t : FileTree) : Place → List String → Bool
  | _, [] => false
  | place, part :: rest =>
    match t.atPlace place with
    | some .folder => isBarred t (follow place [part]) rest
    | some (.file _) => true
    | none => false

/-- The text of the file that a path leads to, with one kind of line end. -/
def read (t : FileTree) (p : Path) : Except ReadingError String :=
  match t.find? p with
  | some (.file content) => (Text.ofBytes content).mapError .notText
  | some .folder => .error .folder
  | none => .error (if t.isBarred (t.startOf p) p.parts then .notAFolder else .missing)

/-- Add the folders that a path leads through. -/
def addWay (t : FileTree) (p : Path) : FileTree := (t.wayOf p).foldl addFolder t

/-- Add what a text stands for as a path, and the folders on its way: a folder if it ends in a
slash, else a file with a text. -/
def addNamed (t : FileTree) (name content : String) : FileTree :=
  let path := Path.ofString name
  if name.toList.getLast? == some '/' then t.addWay path
  else (t.addWay path.parent).addFile (t.place path) content.toUTF8

end FileTree

end StyleUsage
