import Seek.Text.Parts

/-!
Projects: the files below one directory. A path names a file or directory by the steps that lead to
it from the root; a step may also stay where it is or go back. A directory is there as long as the
path of some file comes by it.
-/

namespace Seek

/-- The names that lead from the root to a file or directory. -/
abbrev Path := List String

namespace Path

/-- Takes one step: stays, goes back, or goes on to what has this name. -/
def step (path : Path) (name : String) : Path :=
  if name = "" ∨ name = "." then path
  else if name = ".." ∧ path ≠ [] then path.dropLast
  else path ++ [name]

/-- The paths that steps come by, the last of them where they lead. -/
def stops (path : Path) : List String → List Path
  | [] => []
  | name :: names => path.step name :: stops (path.step name) names

/-- The steps of a written path. -/
def steps (text : String) : List String := (Text.parts '/' text.toList).map String.ofList

/-- Where a written path leads. -/
def ofText (text : String) : Path := (steps text).foldl step []

end Path

/-- The files of a project, each with its path and its bytes, and the directories. -/
structure Project where
  files : List (Path × ByteArray)
  directories : List Path

namespace Project

/-- The project that comes of writing files, given by their written paths, one after the other. -/
def ofBytes (files : List (String × ByteArray)) : Project where
  files := (files.map fun file => (Path.ofText file.1, file.2)).reverse
  directories := files.flatMap fun file => (Path.stops [] (Path.steps file.1)).dropLast

/-- The project that comes of writing files that hold texts. -/
def ofFiles (files : List (String × String)) : Project :=
  ofBytes (files.map fun file => (file.1, file.2.toUTF8))

/-- Why a path cannot be used. -/
inductive PathError where
  | missing
  | isDirectory
  | notDirectory
  /-- There is a file, but its bytes are no text. -/
  | notText
  deriving DecidableEq, Repr

/-- The error in the words of the system and of its readers of texts. -/
def PathError.message : PathError → String
  | .missing => "No such file or directory (os error 2)"
  | .isDirectory => "Is a directory (os error 21)"
  | .notDirectory => "Not a directory (os error 20)"
  | .notText => "stream did not contain valid UTF-8"

/-- There is a directory at the path. The root, which has the empty path, is always there. -/
def hasDirectory (project : Project) (path : Path) : Bool :=
  path.isEmpty || project.directories.contains path

/-- There is a file at the path or on the way there. -/
def isBlocked (project : Project) (path : Path) : Bool :=
  project.files.any fun file => file.1.isPrefixOf path

/-- The text of a file. -/
def read (project : Project) (path : String) : Except PathError String :=
  let path := Path.ofText path
  match project.files.lookup path with
  | some bytes =>
    match String.fromUTF8? bytes with
    | some text => .ok text
    | none => .error .notText
  | none =>
    if project.hasDirectory path then .error .isDirectory
    else if project.isBlocked path then .error .notDirectory
    else .error .missing

/-- The directory can be worked in. -/
def enter (project : Project) (path : String) : Except PathError Unit :=
  let path := Path.ofText path
  if project.hasDirectory path then .ok ()
  else if project.isBlocked path then .error .notDirectory
  else .error .missing

end Project

end Seek
