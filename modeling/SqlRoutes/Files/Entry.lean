import SqlRoutes.Files.Path

/-!
What a file system has at its paths. A path may be one that cannot be looked up, and a file one
that cannot be opened, or not be read to its end; each of these fails with an error of the system.
-/
namespace SqlRoutes

/-- An error by its number, with what the system says of it. -/
structure SystemError where
  number : Nat
  reason : String
  deriving DecidableEq, Repr

namespace SystemError

def absent : SystemError := ⟨2, "No such file or directory"⟩

def forbidden : SystemError := ⟨13, "Permission denied"⟩

def notDirectory : SystemError := ⟨20, "Not a directory"⟩

def isDirectory : SystemError := ⟨21, "Is a directory"⟩

def overlong : SystemError := ⟨36, "File name too long"⟩

/-- The errors that say no more than that nothing is at a path: besides an absent name, a bad
file descriptor, a name that is no directory, and too many links on the way. -/
def passing : List Nat := [absent.number, 9, notDirectory.number, 40]

def message (e : SystemError) : String := s!"[Errno {e.number}] {e.reason}"

def messageAt (e : SystemError) (path : Path) : String := s!"{e.message}: {path.text.quoted}"

end SystemError

inductive FileReading where
  | content (bytes : List UInt8)
  | unopened (e : SystemError)
  | interrupted (e : SystemError)
  deriving DecidableEq, Repr

/-- What stands at a path: a regular file, a directory, or something else that may be read. The
system says whether reading is granted, which is no promise that it succeeds. -/
inductive FileEntry where
  | file (granted : Bool) (reading : FileReading)
  | directory
  | other (granted : Bool) (reading : FileReading)
  deriving DecidableEq, Repr

namespace FileEntry

def reading : FileEntry → FileReading
  | .file _ reading | .other _ reading => reading
  | .directory => .unopened .isDirectory

def granted : FileEntry → Bool
  | .file granted _ | .other granted _ => granted
  | .directory => true

end FileEntry

abbrev Files := Path → Except SystemError FileEntry

namespace Files

/-- Whether a regular file is at the path, which need not be readable. -/
def isFile (files : Files) (path : Path) : Bool :=
  match files path with
  | .ok (.file ..) => true
  | _ => false

def isDirectory (files : Files) (path : Path) : Bool :=
  match files path with
  | .ok .directory => true
  | _ => false

/-- The error of looking for a file, unless it only says that nothing is there. -/
def obstacle? (files : Files) (path : Path) : Option SystemError :=
  match files path with
  | .error e => if SystemError.passing.contains e.number then none else some e
  | .ok _ => none

/-- Whether something is at the path, and reading it is not granted. -/
def isForbidden (files : Files) (path : Path) : Bool :=
  match files path with
  | .ok entry => !entry.granted
  | .error _ => false

/-- A path that cannot be looked up cannot be opened either. -/
def reading (files : Files) (path : Path) : FileReading :=
  match files path with
  | .ok entry => entry.reading
  | .error e => .unopened e

end Files

end SqlRoutes
