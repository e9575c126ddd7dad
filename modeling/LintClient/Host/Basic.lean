import LintClient.Host.FileTree

/-!
# The host

What a client can ask of the machine it runs on: the files as seen from the current directory, the
environment variables, and programs by name.
-/

namespace LintClient

/-- The machine that a client runs on. -/
structure Host where
  tree : Host.FileTree
  /-- The current directory. -/
  here : Host.Location
  environment : List (String × String)
deriving Repr

namespace Host

/-- The directories in which programs are looked up when the environment names none. -/
def systemPath : String := "/bin:/usr/bin"

/-- The programs of a fresh host. -/
def systemTools : FileTree :=
  let named : List (String × Tool) := [("sh", .shell), ("dash", .shell), ("bash", .shell),
    ("cat", .cat), ("head", .head), ("tail", .tail), ("tac", .reverse), ("wc", .count),
    ("tr", .transliterate), ("seq", .sequence), ("yes", .repeatLine), ("tee", .duplicate),
    ("echo", .echo), ("printf", .printf), ("sleep", .sleep), ("test", .test), ("true", .succeed),
    ("false", .fail), ("env", .env)]
  [["bin"], ["usr", "bin"]].flatMap fun folder =>
    named.map fun (name, tool) => (folder ++ [name], Node.tool tool)

/-- A host without files of its own, with an empty current directory. -/
def fresh (environment : List (String × String)) : Host :=
  let here := ["work"]
  let folder : Node := .folder (.usual true)
  ⟨systemTools ++ [(["dev", "null"], .sink), (["tmp"], folder), (here, folder)], here, environment⟩

/-- The value of an environment variable. -/
def setting (host : Host) (name : String) : Option String :=
  host.environment.lookup name

/-- What a path names. -/
def find (host : Host) (path : String) : Except FileFault Node :=
  host.tree.find host.here path

/-- What a path names, if it leads anywhere. A path that cannot be followed for another reason than
that something on the way is not there is a failure. -/
def look (host : Host) (path : String) : Except FileError (Option Node) :=
  match host.find path with
  | .ok node => .ok (some node)
  | .error .missing | .error .notFolder => .ok none
  | .error fault => .error ⟨fault, path⟩

/-- Whether a path names anything. -/
def existsAt (host : Host) (path : String) : Bool :=
  (host.find path).toOption.isSome

/-- Whether a path names a regular file. -/
def isRegularFile (host : Host) (path : String) : Bool :=
  (host.find path).toOption.any Node.isRegular

/-- Whether a path names something other than a directory that may be executed. -/
def isExecutable (host : Host) (path : String) : Bool :=
  (host.find path).toOption.any Node.isExecutable

/-- The directories in which programs are looked up. -/
def searchPath (host : Host) : List String :=
  pathParts ((host.setting "PATH").getD systemPath)
where
  /-- The parts of a list of directories. -/
  pathParts (path : String) : List String :=
    (Text.splitAt ':' path.toList).map String.ofList

/-- The path of the program with the given name: a name with a directory stands for itself, any
other name is looked up. An empty list of directories has no programs. -/
def program? (host : Host) (name : String) : Option String :=
  if hasDirectory name then (if host.isExecutable name then some name else none)
  else if host.searchPath == [""] then none
  else
    (host.searchPath.map fun directory => joinPath directory name).find? host.isExecutable

/-- Put a node at a path, with the directories above it. Where they cannot be, nothing is put. -/
def place (host : Host) (path : String) (node : Node) : Host :=
  match host.tree.makeFolders host.here (parentPath path) with
  | .error _ => host
  | .ok tree =>
    match tree.locate host.here path with
    | .ok location => { host with tree := tree.insert location node }
    | .error _ => host

/-- Read a file as bytes. -/
def read (host : Host) (path : String) : Except FileError (List UInt8) :=
  host.tree.read host.here path

end Host

end LintClient
