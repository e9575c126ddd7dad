import LintClient.Text.Blank

/-!
# Paths

Paths as text. The plain form of a path has no empty and no `.` components; it keeps `..`, whose
meaning depends on the directories before it.
-/

namespace LintClient.Host

open Text

/-- The components of a path, empty ones included. -/
def pathComponents (path : String) : List String :=
  (splitAt '/' path.toList).map String.ofList

/-- Whether a path starts at the root. -/
def isAbsolute (path : String) : Bool :=
  path.toList.head? == some '/'

/-- The beginning that marks a path as absolute. Two slashes are kept apart from one and from
more. -/
def rootMark (path : String) : String :=
  match path.toList.takeWhile (· == '/') with
  | [] => ""
  | [_, _] => "//"
  | _ => "/"

/-- The components of a path that count. -/
def plainComponents (path : String) : List String :=
  (pathComponents path).filter fun component => component ≠ "" && component ≠ "."

/-- The path of components below a beginning. -/
def pathOfComponents (mark : String) (components : List String) : String :=
  let text := mark ++ "/".intercalate components
  if text.isEmpty then "." else text

/-- The plain form of a path. -/
def plainPath (path : String) : String :=
  pathOfComponents (rootMark path) (plainComponents path)

/-- The plain form of a path continued by components. -/
def childPath (path : String) (components : List String) : String :=
  pathOfComponents (rootMark path) (plainComponents path ++ components)

/-- The components of a path without its `..`, each taken together with the component before it. -/
def collapsed (components : List String) : List String :=
  (components.foldl
    (fun earlier component => if component = ".." then earlier.drop 1 else component :: earlier)
    []).reverse

/-- The path from the root to what a path names as seen from `here`, by its text alone. -/
def absolutePath (here : List String) (path : String) : String :=
  let before := if isAbsolute path then [] else here
  "/" ++ "/".intercalate (collapsed (before ++ plainComponents path))

/-- The path of the directory that a path names something in, in its plain form. -/
def parentPath (path : String) : String :=
  pathOfComponents (rootMark path) (plainComponents path).dropLast

/-- A name in a directory, where the directory's path is taken as it is written. -/
def joinPath (directory name : String) : String :=
  if directory.isEmpty || directory.toList.getLast? == some '/' then directory ++ name
  else directory ++ "/" ++ name

/-- Whether a path names something in a directory, and not just something to look up. -/
def hasDirectory (path : String) : Bool :=
  path.toList.contains '/'

/-- Whether a path holds the character that no path may hold. -/
def holdsNul (path : String) : Bool :=
  path.toList.contains '\x00'

end LintClient.Host
