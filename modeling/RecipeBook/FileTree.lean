import RecipeBook.IoFault
import RecipeBook.Text.Line

/-!
# File trees

A file tree is a folder with everything below it, as a list of paths from the folder down. Whatever
a path leads through is a folder of the tree. `walk` lists what there is in the order in which one
meets it when every folder is gone through by name. A `Folder` is a place in a tree from which
locations are told.
-/

namespace RecipeBook

inductive Content
  | file (bytes : ByteArray)
  | folder

/-- The names on the way to an entry. -/
abbrev Path := List String

namespace Path

/-- The last name on the way. -/
def fileName (path : Path) : String := path.getLastD ""

/-- The location of a path that is told from a folder. -/
def locate (folder : String) (path : Path) : String :=
  path.foldl (fun here name =>
    if here.toList.getLast? = some '/' then here ++ name else here ++ "/" ++ name) folder

end Path

/-- What comes of opening a file and reading it to its end. -/
inductive Reading
  | unopened (fault : IoFault)
  | broken (fault : IoFault)
  | bytes (bytes : ByteArray)

/-- What a walk comes upon. -/
inductive WalkEntry
  /-- A place that cannot be looked into. -/
  | fault (cause : String)
  /-- A regular file. -/
  | file (path : Path) (reading : Reading)
  /-- A folder, or whatever else is no regular file. -/
  | other

structure FileTree where
  entries : List (Path × Content)

namespace FileTree

def empty : FileTree := ⟨[]⟩

variable (t : FileTree)

/-- What is at a path; the tree itself is a folder. -/
def find? (path : Path) : Option Content :=
  if path = [] then some .folder else t.entries.lookup path

def isFolder (path : Path) : Bool :=
  match t.find? path with
  | some .folder => true
  | _ => false

def file? (path : Path) : Option ByteArray :=
  match t.find? path with
  | some (.file bytes) => some bytes
  | _ => none

/-- Puts something at a path, in place of what is there. -/
def put (path : Path) (content : Content) : FileTree :=
  ⟨t.entries.filter (·.1 ≠ path) ++ [(path, content)]⟩

/-- Makes a folder of every path on the way, where there is nothing yet. -/
def makeFolder (path : Path) : FileTree :=
  ((List.range (path.length + 1)).map path.take).foldl (fun t p => if (t.find? p).isSome then t else t.put p .folder) t

/-- Writes a file, and makes the folders that it is in. -/
def write (path : Path) (bytes : ByteArray) : FileTree :=
  (t.makeFolder path.dropLast).put path (.file bytes)

/-- Removes what is at a path and below it. -/
def remove (path : Path) : FileTree := ⟨t.entries.filter fun e => !path.isPrefixOf e.1⟩

/-- The folder at a path as a tree of its own. -/
def sub? (path : Path) : Option FileTree :=
  if t.isFolder path then
    some ⟨t.entries.filterMap fun e =>
      if path.isPrefixOf e.1 && e.1 ≠ path then some (e.1.drop path.length, e.2) else none⟩
  else none

/-- A path comes before another if its first name that differs is the smaller one. -/
def pathLE : Path → Path → Bool
  | [], _ => true
  | _ :: _, [] => false
  | a :: as, b :: bs => decide (a < b) || (a == b && pathLE as bs)

/-- Everything in the tree, by path. -/
def walk : List WalkEntry :=
  (t.entries.mergeSort fun a b => pathLE a.1 b.1).map fun e =>
    match e.2 with
    | .file bytes => .file e.1 (.bytes bytes)
    | .folder => .other

/-- The most bytes that a name may have. -/
def maxNameSize : Nat := 255

/-- The most bytes that a path may have. -/
def maxPathSize : Nat := 4095

/-- Follows the names of a relative path: nothing and a point stay, two points go up. Only a folder can
be gone through, and nothing outside the tree is there. -/
def follow (here : Path) : List String → Except IoFault Path
  | [] => .ok here
  | name :: rest =>
    match t.find? here with
    | none => .error .notFound
    | some (.file _) => .error .notFolder
    | some .folder =>
      if name = "" ∨ name = "." then follow here rest
      else if name = ".." then
        if here = [] then .error .notFound else follow here.dropLast rest
      else if maxNameSize < name.utf8ByteSize then .error .nameTooLong
      else follow (here ++ [name]) rest

/-- What is found at a location, which is written with slashes and relative to a folder of the tree. -/
def findFrom (here : Path) (location : String) : Except IoFault (Path × Content) :=
  if location.toList.contains '\x00' then .error .notAName
  else if maxPathSize < location.utf8ByteSize then .error .nameTooLong
  else if location = "" ∨ location.toList.head? = some '/' then .error .notFound
  else do
    let path ← t.follow here ((Text.splitOn '/' location.toList).map String.ofList)
    match t.find? path with
    | some content => return (path, content)
    | none => throw .notFound

end FileTree

/-- A folder in a tree, so that a location can lead out of it. -/
structure Folder where
  tree : FileTree
  path : Path

namespace Folder

/-- The folder that holds the whole tree. -/
def top (tree : FileTree) : Folder := ⟨tree, []⟩

variable (f : Folder)

/-- Reads the file at a location. -/
def read (location : String) : Except IoFault ByteArray := do
  match ← f.tree.findFrom f.path location with
  | (_, .file bytes) => return bytes
  | (_, .folder) => throw .isFolder

/-- The folder at a location, if there is one. -/
def enter? (location : String) : Option Folder :=
  match f.tree.findFrom f.path location with
  | .ok (path, .folder) => some ⟨f.tree, path⟩
  | _ => none

/-- What is in the folder as a tree of its own, if there is such a folder. -/
def contents? : Option FileTree := f.tree.sub? f.path

end Folder
end RecipeBook
