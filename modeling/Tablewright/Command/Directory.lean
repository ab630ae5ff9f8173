import Tablewright.Settings.Stored
import Tablewright.Schema.Reader

namespace Tablewright.Command

/-!
# Working directories

The files that a command may read, by their paths below the working
directory. A path is followed part by part, so a missing part, a file in the
middle of a path and a directory at its end are told apart.
-/

/-- Why a file cannot be read. -/
inductive FileFault where
  | notFound
  | notDirectory
  | isDirectory
  | invalidName
  deriving Repr, DecidableEq

/-- The wording of a file fault. -/
def FileFault.message : FileFault → String
  | .notFound => "No such file or directory (os error 2)"
  | .notDirectory => "Not a directory (os error 20)"
  | .isDirectory => "Is a directory (os error 21)"
  | .invalidName => "file name contained an unexpected NUL byte"

/-- The files of a working directory. -/
structure Directory where
  files : List (String × String)
  deriving Repr, DecidableEq

/-- The parts of a path between its slashes. -/
def partsOf (path : String) : List String :=
  (Text.cut '/' path.toList).map String.ofList

/-- Whether a part of a path stays where it is. -/
def isStationary (part : String) : Bool :=
  part.isEmpty || part == "."

namespace Directory

/-- The content of the file at a place. -/
def content? (directory : Directory) (place : List String) :
    Option String :=
  (directory.files.find? (fun file =>
    (partsOf file.1).filter (fun part => !isStationary part) ==
      place)).map Prod.snd

/-- Whether a place is a directory: some file lies below it. -/
def isDirectory (directory : Directory) (place : List String) : Bool :=
  place.isEmpty || directory.files.any (fun file =>
    let parts := (partsOf file.1).filter (fun part => !isStationary part)
    place.isPrefixOf parts && place.length < parts.length)

/-- Read the file at a place. -/
def readAt (directory : Directory) (place : List String) :
    Except FileFault String :=
  match directory.content? place with
  | some content => .ok content
  | none =>
      if directory.isDirectory place then .error .isDirectory
      else .error .notFound

/-- Follow the parts of a path from a place that has been reached. -/
def follow (directory : Directory) (place : List String) :
    List String → Except FileFault String
  | [] => directory.readAt place
  | part :: rest =>
      if (directory.content? place).isSome then .error .notDirectory
      else if !directory.isDirectory place then .error .notFound
      else if isStationary part then directory.follow place rest
      else if part == ".." then
        if place.isEmpty then .error .notFound
        else directory.follow place.dropLast rest
      else directory.follow (place ++ [part]) rest

/-- Read the file of a path. -/
def read (directory : Directory) (path : String) :
    Except FileFault String :=
  match directory.files.lookup path with
  | some content => .ok content
  | none =>
      if path.contains '\x00' then .error .invalidName
      else if path.isEmpty || path.front == '/' then .error .notFound
      else directory.follow [] (partsOf path)

/-- Whether there is anything at a path. -/
def hasPath (directory : Directory) (path : String) : Bool :=
  match directory.read path with
  | .ok _ | .error .isDirectory => true
  | .error _ => false

/-- Read and load a schema document; whatever goes wrong is said of the
file. -/
def loadDocument (directory : Directory) (path : String) :
    Outcome Schema.Document :=
  match directory.read path with
  | .error fault => .error (.fileRead path fault.message)
  | .ok content =>
      (Schema.Document.load content).mapError
        (fun failure => .fileRead path failure.message)

/-- Read and load settings. -/
def loadSettings (directory : Directory) (path : String) :
    Outcome Settings :=
  match directory.read path with
  | .error fault => .error (.fileRead path fault.message)
  | .ok content => Settings.load content

end Directory

end Tablewright.Command
