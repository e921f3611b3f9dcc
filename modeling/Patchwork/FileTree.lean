import Patchwork.Catalog
import Patchwork.Fault
import Patchwork.Path

/-!
# File trees

A file tree is what a program sees of the file system: directories, files with their bytes, and the
directory that relative paths start from. A location is the list of names that leads to an entry from the
root, and the root is always a directory.

Reading follows a path name by name, and each name but the last has to lead to a directory. Writing
follows the path to its last name, which may be new, but it makes no directory. A read changes nothing,
and neither does a write that fails.
-/

set_option autoImplicit false

namespace Patchwork

inductive FileTree.Entry where
  | directory
  | file (bytes : ByteArray)

/-- The names on the way from the root to an entry. -/
abbrev FileTree.Location := List String

structure FileTree where
  entries : Catalog FileTree.Location FileTree.Entry
  /-- Where relative paths start. -/
  workingDirectory : FileTree.Location

namespace FileTree

inductive Obstacle where
  | noSuchFile
  | notADirectory
  | isADirectory
  | nameTooLong
  | nulInPath
  | notText
  deriving DecidableEq, Repr

def Obstacle.text : Obstacle → String
  | .noSuchFile => "No such file or directory (os error 2)"
  | .notADirectory => "Not a directory (os error 20)"
  | .isADirectory => "Is a directory (os error 21)"
  | .nameTooLong => "File name too long (os error 36)"
  | .nulInPath => "file name contained an unexpected NUL byte"
  | .notText => "stream did not contain valid UTF-8"

def Obstacle.why : Obstacle → StorageFault
  | .noSuchFile => .notFound
  | .notText => .notText
  | _ => .other

def Obstacle.fault (obstacle : Obstacle) : Fault :=
  .storage obstacle.why obstacle.text

/-- The bytes that one name may have. -/
def nameLimit : Nat := 255

/-- The bytes that a whole path may have. -/
def pathLimit : Nat := 4095

def entry? (tree : FileTree) (location : Location) : Option Entry :=
  if location = [] then some .directory else tree.entries.get? location

def isDirectory (tree : FileTree) (location : Location) : Bool :=
  match tree.entry? location with
  | some .directory => true
  | _ => false

/-- A path that a system call accepts at all. -/
def checkPath (path : String) : Except Obstacle Unit :=
  if '\x00' ∈ path.toList then .error .nulInPath
  else if path.isEmpty then .error .noSuchFile
  else if pathLimit < path.utf8ByteSize then .error .nameTooLong
  else .ok ()

def start (tree : FileTree) (path : String) : Location :=
  if Path.isAbsolute path.toList then [] else tree.workingDirectory

/-- One name further from a directory. A dot stays and two dots go back, at the root to the root. -/
def step (tree : FileTree) (here : Location) (name : String) : Except Obstacle Location :=
  if name = "." then .ok here
  else if name = ".." then .ok here.dropLast
  else if nameLimit < name.utf8ByteSize then .error .nameTooLong
  else match tree.entry? (here ++ [name]) with
    | some _ => .ok (here ++ [name])
    | none => .error .noSuchFile

/-- Where names lead. Each of them is looked up in a directory. -/
def follow (tree : FileTree) (here : Location) : List String → Except Obstacle Location
  | [] => .ok here
  | name :: rest =>
    if tree.isDirectory here then
      match tree.step here name with
      | .ok next => tree.follow next rest
      | .error obstacle => .error obstacle
    else .error .notADirectory

/-- The names that a read looks up. A slash at the end asks for a directory, as a dot after it does. -/
def namesToRead (path : String) : List String :=
  Path.names path ++ if Path.endsInSlash path.toList then ["."] else []

def readBytes (tree : FileTree) (path : String) : Except Obstacle ByteArray := do
  checkPath path
  let location ← tree.follow (tree.start path) (namesToRead path)
  match tree.entry? location with
  | some (.file bytes) => .ok bytes
  | some .directory => .error .isADirectory
  | none => .error .noSuchFile

def read (tree : FileTree) (path : String) : Except Obstacle String := do
  let bytes ← tree.readBytes path
  match String.fromUTF8? bytes with
  | some text => .ok text
  | none => .error .notText

/-- Where a write to a path puts its file. -/
def destination (tree : FileTree) (path : String) : Except Obstacle Location := do
  checkPath path
  match (Path.names path).getLast? with
  | none => .error .isADirectory
  | some last =>
    let parent ← tree.follow (tree.start path) (Path.names path).dropLast
    if !tree.isDirectory parent then .error .notADirectory
    else if last = "." || last = ".." || Path.endsInSlash path.toList then .error .isADirectory
    else if nameLimit < last.utf8ByteSize then .error .nameTooLong
    else match tree.entry? (parent ++ [last]) with
      | some .directory => .error .isADirectory
      | _ => .ok (parent ++ [last])

def write (tree : FileTree) (path content : String) : Except Obstacle FileTree := do
  let location ← tree.destination path
  return { tree with entries := tree.entries.put location (.file content.toUTF8) }

/-- The tree with an entry put at a location and directories on the way to it. -/
def install (tree : FileTree) (location : Location) (entry : Entry) : FileTree :=
  let ancestors := (List.range location.length).map fun length => location.take length
  let onTheWay := ancestors.filter fun ancestor => !tree.isDirectory ancestor
  let entries := onTheWay.foldl (fun entries ancestor => entries.put ancestor .directory) tree.entries
  { tree with entries := entries.put location entry }

/-- The files below the working directory, each with its path from there. -/
def files (tree : FileTree) : List (String × ByteArray) :=
  tree.entries.filterMap fun entry =>
    match entry.2 with
    | .directory => none
    | .file bytes =>
      if tree.workingDirectory.isPrefixOf entry.1 then
        some ("/".intercalate (entry.1.drop tree.workingDirectory.length), bytes)
      else none

end FileTree

end Patchwork
