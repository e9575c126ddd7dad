import LintClient.Host.Path
import LintClient.Text.Quoted
import LintClient.Text.Utf8

/-!
# Files

The files that the client sees: a tree of directories below one root, with the programs that the
host knows among its files. Names and paths have a greatest length, and what may be done with a file
or a directory is a part of it. An operation on a path fails for one of the reasons that a file
system gives, and the failure names the path as it was written.
-/

namespace LintClient.Host

/-- A program that the host knows how to run. -/
inductive Tool where
  | shell
  | cat
  | head
  | tail
  | reverse
  | count
  | transliterate
  | sequence
  | repeatLine
  | duplicate
  | echo
  | printf
  | sleep
  | test
  | succeed
  | fail
  /-- Runs the program that its arguments name. -/
  | env
deriving DecidableEq, Repr

/-- What the client may do with a file or a directory. To execute a directory is to go through
it. -/
structure Access where
  read : Bool
  write : Bool
  execute : Bool
deriving DecidableEq, Repr

/-- The usual access to what the client owns. -/
def Access.usual (execute : Bool) : Access := ⟨true, true, execute⟩

/-- What is found at a place in the tree. -/
inductive Node where
  | folder (access : Access)
  | file (data : List UInt8) (access : Access)
  | tool (tool : Tool)
  /-- A file that takes everything and holds nothing. -/
  | sink
deriving DecidableEq, Repr

/-- Whether a node is a directory. -/
def Node.isFolder : Node -> Bool
  | .folder _ => true
  | _ => false

/-- Whether a node is a directory that one may go through. -/
def Node.mayBeEntered : Node -> Bool
  | .folder access => access.execute
  | _ => false

/-- Whether a node is a regular file. -/
def Node.isRegular : Node -> Bool
  | .file _ _ | .tool _ => true
  | _ => false

/-- Whether a node may be executed. -/
def Node.isExecutable : Node -> Bool
  | .file _ access => access.execute
  | .tool _ => true
  | _ => false

/-- Why an operation on a path fails. -/
inductive FileFault where
  | missing
  | notFolder
  | isFolder
  | exists
  | denied
  | notProgram
  /-- A name or the whole path has too many bytes. -/
  | nameTooLong
  /-- A word that a program is given has too many bytes. -/
  | wordTooLong
deriving DecidableEq, Repr

/-- The number of a fault. -/
def FileFault.number : FileFault -> Nat
  | .missing => 2
  | .wordTooLong => 7
  | .notProgram => 8
  | .denied => 13
  | .exists => 17
  | .notFolder => 20
  | .isFolder => 21
  | .nameTooLong => 36

/-- The wording of a fault. -/
def FileFault.message : FileFault -> String
  | .missing => "No such file or directory"
  | .wordTooLong => "Argument list too long"
  | .notProgram => "Exec format error"
  | .denied => "Permission denied"
  | .exists => "File exists"
  | .notFolder => "Not a directory"
  | .isFolder => "Is a directory"
  | .nameTooLong => "File name too long"

/-- A failed operation on a path. -/
structure FileError where
  fault : FileFault
  path : String
deriving DecidableEq, Repr

/-- The wording of a failed operation. -/
def FileError.message (error : FileError) : String :=
  "[Errno " ++ toString error.fault.number ++ "] " ++ error.fault.message ++ ": "
    ++ Text.quoted error.path

/-- A place in the tree: the names on the way from the root. -/
abbrev Location := List String

/-- The nodes of a tree by their places. The directories above a node need no mention. -/
abbrev FileTree := List (Location × Node)

namespace FileTree

/-- What is found at a place. -/
def node? (tree : FileTree) (location : Location) : Option Node :=
  match List.lookup location tree with
  | some node => some node
  | none =>
    if location.isEmpty || tree.any fun entry => location.isPrefixOf entry.1 then
      some (.folder (.usual true))
    else none

/-- The greatest number of bytes of a name. -/
def nameLimit : Nat := 255

/-- The number of bytes that a whole path stays below. -/
def pathLimit : Nat := 4096

/-- Go along components from a place. Everything that is left behind must be a directory that one
may go through. -/
def walk (tree : FileTree) (location : Location) :
    List String -> Except FileFault Location
  | [] => .ok location
  | component :: components =>
    match tree.node? location with
    | none => .error .missing
    | some (.folder access) =>
      if component = "" then walk tree location components
      else if !access.execute then .error .denied
      else if component = "." then walk tree location components
      else if component = ".." then walk tree location.dropLast components
      else if nameLimit < component.utf8ByteSize then .error .nameTooLong
      else walk tree (location ++ [component]) components
    | some _ => .error .notFolder

/-- The place that a path names, as seen from `here`. What is there need not exist, but the
directories before it must. -/
def locate (tree : FileTree) (here : Location) (path : String) : Except FileFault Location :=
  if path.isEmpty || holdsNul path then .error .missing
  else if pathLimit ≤ path.utf8ByteSize then .error .nameTooLong
  else tree.walk (if isAbsolute path then [] else here) (pathComponents path)

/-- What a path names. -/
def find (tree : FileTree) (here : Location) (path : String) : Except FileFault Node := do
  let location ← tree.locate here path
  match tree.node? location with
  | some node => .ok node
  | none => .error .missing

/-- Put a node at a place. -/
def insert (tree : FileTree) (location : Location) (node : Node) : FileTree :=
  if tree.any fun entry => entry.1 == location then
    tree.map fun entry => if entry.1 == location then (location, node) else entry
  else tree ++ [(location, node)]

/-- Whether something may be made at a place at which there is nothing. -/
def mayMake (tree : FileTree) (location : Location) : Bool :=
  match tree.node? location.dropLast with
  | some (.folder access) => access.write
  | _ => false

/-- Read a file as bytes. -/
def read (tree : FileTree) (here : Location) (path : String) :
    Except FileError (List UInt8) :=
  match tree.find here path with
  | .error fault => .error ⟨fault, path⟩
  | .ok (.folder access) => .error ⟨if access.read then .isFolder else .denied, path⟩
  | .ok (.file data access) => if access.read then .ok data else .error ⟨.denied, path⟩
  | .ok _ => .ok []

/-- Create a directory in an existing one, unless it exists. -/
def makeFolder (tree : FileTree) (here : Location) (path : String) :
    Except FileFault FileTree := do
  let location ← tree.locate here path
  match tree.node? location with
  | none =>
    if tree.mayMake location then pure (tree.insert location (.folder (.usual true)))
    else throw .denied
  | some node => if node.isFolder then pure tree else throw .exists

/-- Create a directory with those above it that are missing. The path is given by its plain
components, from the last one on. -/
def makeFoldersAbove (tree : FileTree) (here : Location) (mark : String) :
    List String -> Except FileError FileTree
  | [] => .ok tree
  | component :: above =>
    let path := pathOfComponents mark (component :: above).reverse
    match tree.makeFolder here path with
    | .ok tree => .ok tree
    | .error .missing =>
      match makeFoldersAbove tree here mark above with
      | .ok tree => (tree.makeFolder here path).mapError (⟨·, path⟩)
      | .error error => .error error
    | .error fault => .error ⟨fault, path⟩

/-- Create a directory with all directories above it, unless it exists. -/
def makeFolders (tree : FileTree) (here : Location) (path : String) :
    Except FileError FileTree :=
  tree.makeFoldersAbove here (rootMark path) (plainComponents path).reverse

/-- Make a file ready to be written, at its end or from its start on. It is created if it is
missing. -/
def prepare (tree : FileTree) (location : Location) (atEnd : Bool) : Except FileFault FileTree :=
  match tree.node? location with
  | some (.folder _) => .error .isFolder
  | some (.file data access) =>
    if access.write then .ok (tree.insert location (.file (if atEnd then data else []) access))
    else .error .denied
  | some (.tool _) => .error .denied
  | some .sink => .ok tree
  | none =>
    if tree.mayMake location then .ok (tree.insert location (.file [] (.usual false)))
    else .error .denied

/-- Put bytes behind those of a file. -/
def extend (tree : FileTree) (location : Location) (bytes : List UInt8) : FileTree :=
  match tree.node? location with
  | some (.file data access) => tree.insert location (.file (data ++ bytes) access)
  | _ => tree

/-- Append text to a file, which is created if it is missing. -/
def append (tree : FileTree) (here : Location) (path text : String) :
    Except FileError FileTree :=
  let prepared := do
    let location ← tree.locate here path
    let tree ← tree.prepare location true
    pure (tree.extend location (Text.Utf8.encode text.toList))
  prepared.mapError (⟨·, path⟩)

end FileTree

end LintClient.Host
