import Rollout.Text.Pieces
import Rollout.Text.Utf8

namespace Rollout.Files

/-! Files and directories as far as deployments read them.

A path is looked up name by name from the root, or from the working directory
when it is relative.  Every name but the last has to be a directory.
-/

abbrev Location := List String

inductive Failure where
  | notFound
  | notDirectory
  | isDirectory
  | denied
  | notText
  | outside
  | noParent (path : String)
  | noFileName (path : String)
deriving Repr, DecidableEq

def Failure.message : Failure → String
  | .notFound => "No such file or directory (os error 2)"
  | .notDirectory => "Not a directory (os error 20)"
  | .isDirectory => "Is a directory (os error 21)"
  | .denied => "Permission denied (os error 13)"
  | .notText => "stream did not contain valid UTF-8"
  | .outside => "a path led outside of the filesystem"
  | .noParent path => "path has no parent directory: " ++ path
  | .noFileName path => "path has no file name: " ++ path

/-- The files by location, directories that need not hold a file, and the
working directory, if it is one of them.  Links are left out: what is said of a
tree is said of file systems without them.  (A directory opened for its own
entries alone would follow a link that stays inside it.) -/
structure Tree where
  files : List (Location × List UInt8)
  directories : List Location
  working : Option Location
deriving Repr

/-- The names of a path; empty ones and single points say nothing. -/
def names (path : String) : List String :=
  ((Text.splitAt '/' path.toList).map String.ofList).filter fun name => name ≠ "" ∧ name ≠ "."

def isAbsolute (path : String) : Bool :=
  path.toList.head? == some '/'

/-- A path that ends in a slash or in a single point can only be one of a directory. -/
def endsAsDirectory (path : String) : Bool :=
  (Text.splitAt '/' path.toList).getLast?.any fun last => last = [] || last = ['.']

/-- Where a name leads from a directory. -/
def next (directory : Location) (name : String) : Location :=
  if name = ".." then directory.dropLast else directory ++ [name]

/-- Where a path leads from a directory if no name is followed to somewhere else. -/
def locate (directory : Location) (path : String) : Location :=
  (names path).foldl next (if isAbsolute path then [] else directory)

def join (directory name : String) : String :=
  if directory.isEmpty || directory.toList.getLast? == some '/' then directory ++ name
  else directory ++ "/" ++ name

inductive Entry where
  | file (bytes : List UInt8)
  | directory
deriving Repr

namespace Tree

def empty : Tree := { files := [], directories := [], working := none }

def place (tree : Tree) (directory : Location) (path : String) (bytes : List UInt8) : Tree :=
  { tree with files := (directory ++ names path, bytes) :: tree.files }

def entry? (tree : Tree) (location : Location) : Option Entry :=
  if location = [] then some .directory
  else match tree.files.find? (·.1 == location) with
    | some (_, bytes) => some (.file bytes)
    | none =>
        let inside (other : Location) : Bool := location.isPrefixOf other
        if tree.files.any (inside ·.1) || tree.directories.any inside then some .directory
        else none

def walk (tree : Tree) : Location → List String → Except Failure (Location × Entry)
  | location, [] =>
      match tree.entry? location with
      | some entry => .ok (location, entry)
      | none => .error .notFound
  | location, name :: names =>
      match tree.entry? location with
      | none => .error .notFound
      | some (.file _) => .error .notDirectory
      | some .directory => walk tree (next location name) names

def openDirectory (tree : Tree) (path : String) : Except Failure Location := do
  let start ← if isAbsolute path then .ok []
    else match tree.working with
      | some location => if path.isEmpty then .error .notFound else .ok location
      | none => .error .notFound
  let (location, entry) ← tree.walk start (names path)
  match entry with
  | .directory => .ok location
  | .file _ => .error .notDirectory

def namesIn (tree : Tree) (location : Location) : List String :=
  let inside (other : Location) : Option String :=
    if location.isPrefixOf other then (other.drop location.length).head? else none
  (tree.files.filterMap (inside ·.1) ++ tree.directories.filterMap inside).eraseDups

/-- Looks names up as `walk` does, but never above a base. -/
def walkWithin (tree : Tree) (base : Location) :
    Location → List String → Except Failure (Location × Entry)
  | location, [] => tree.walk location []
  | location, name :: names =>
      match tree.entry? location with
      | none => .error .notFound
      | some (.file _) => .error .notDirectory
      | some .directory =>
          if name = ".." ∧ location = base then .error .outside
          else walkWithin tree base (next location name) names

/-- Reads a text file by names from a directory that must not be left. -/
def readText (tree : Tree) (directory : Location) (path : List String)
    (asDirectory : Bool := false) : Except Failure String := do
  let (_, entry) ← tree.walkWithin directory directory path
  match entry with
  | .directory => .error .isDirectory
  | .file bytes =>
      if asDirectory then .error .notDirectory
      else match Text.Utf8.decode? bytes with
        | some chars => .ok (String.ofList chars)
        | none => .error .notText

def readPath (tree : Tree) (path : String) : Except Failure String := do
  if isAbsolute path then
    match (names path).reverse with
    | [] => .error (.noParent path)
    | name :: parents =>
        if name = ".." then .error (.noFileName path)
        else
          let directory ← tree.openDirectory ("/" ++ "/".intercalate parents.reverse)
          tree.readText directory [name]
  else if (names path).head? = some ".." then .error .outside
  else
    let directory ← tree.openDirectory "."
    tree.readText directory (names path) (endsAsDirectory path)

end Tree

/-- Puts the home directory in place of a leading tilde and slash. -/
def expandTilde (home : Option String) (path : String) : String :=
  match Text.dropStart? ['~', '/'] path.toList, home with
  | some rest, some home => home ++ "/" ++ String.ofList rest
  | _, _ => path

end Rollout.Files
