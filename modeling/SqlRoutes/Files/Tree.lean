import SqlRoutes.Files.Entry

namespace SqlRoutes

namespace Path

def encloses (outer inner : Path) : Bool :=
  outer.root = inner.root && outer.names.isPrefixOf inner.names

/-- The directory around a place. A root has none but itself; from the working directory two dots
lead on. -/
def parent (place : Path) : Path :=
  match place.names.getLast? with
  | none => if place.root = "" then { place with names := [".."] } else place
  | some name =>
    if name = ".." then { place with names := place.names ++ [".."] }
    else { place with names := place.names.dropLast }

/-- The place that a path leads to if all names before two dots are directories. -/
def settled (path : Path) : Path :=
  path.names.foldl
    (fun place name =>
      if name = ".." then place.parent else { place with names := place.names ++ [name] })
    { path with names := [] }

end Path

/-- Files at their places, the last one counting if there are several, and directories besides
those the files are in. -/
structure FileTree where
  files : List (Path × List UInt8)
  directories : List Path
  deriving DecidableEq, Repr

namespace FileTree

/-- The tree that has files and directories at some paths, and all directories on the way. -/
def ofList (files : List (String × List UInt8)) (directories : List String) : FileTree :=
  let files := files.map fun file => (Path.ofString file.1, file.2)
  let around := files.map fun file => { file.1 with names := file.1.names.dropLast }
  let directories := around ++ directories.map Path.ofString
  ⟨files.map fun file => (file.1.settled, file.2),
    directories.flatMap fun path =>
      (List.range (path.names.length + 1)).map fun count =>
        { path with names := path.names.take count }.settled⟩

def isDirectory (tree : FileTree) (place : Path) : Bool :=
  place.names.all (· = "..") || tree.directories.any place.encloses ||
    tree.files.any fun file => place.encloses file.1 && place ≠ file.1

/-- Follows names from a place that has to be a directory; two dots lead back. -/
def follow (tree : FileTree) (place : Path) : List String → Except SystemError Path
  | [] => .ok place
  | name :: names =>
    if !tree.isDirectory place then
      .error (if tree.files.any (·.1 = place) then .notDirectory else .absent)
    else if name = ".." then tree.follow place.parent names
    else tree.follow { place with names := place.names ++ [name] } names

def pathLimit : Nat := 4095

def nameLimit : Nat := 255

/-- Whether a path is too long, or a name on it that is looked up in a directory. -/
def isOverlong (tree : FileTree) (path : Path) : Bool :=
  let before := path.names.takeWhile (·.utf8ByteSize ≤ nameLimit)
  pathLimit < path.text.utf8ByteSize ||
    before.length < path.names.length &&
      match tree.follow ⟨path.root, []⟩ before with
      | .ok place => tree.isDirectory place
      | .error _ => false

def lookUp (tree : FileTree) (path : Path) : Except SystemError FileEntry := do
  if tree.isOverlong path then throw .overlong
  let place ← tree.follow ⟨path.root, []⟩ path.names
  match tree.files.reverse.find? (·.1 = place) with
  | some file => return .file true (.content file.2)
  | none => if tree.isDirectory place then return .directory else throw .absent

end FileTree

end SqlRoutes
