import LintClient.Shell.Expansion
import LintClient.Shell.Filters

/-!
# Commands that are built into the shell

Commands that change the state of the shell itself, or that it carries out without a process of
their own.
-/

namespace LintClient.Shell

open Host (FileFault)

/-- The numbers of the signals that have names. -/
def signalNumbers : List (String × Nat) :=
  [("HUP", 1), ("INT", 2), ("QUIT", 3), ("ILL", 4), ("TRAP", 5), ("ABRT", 6), ("BUS", 7),
    ("FPE", 8), ("KILL", 9), ("USR1", 10), ("SEGV", 11), ("USR2", 12), ("PIPE", 13),
    ("ALRM", 14), ("TERM", 15), ("CHLD", 17), ("CONT", 18)]

/-- The number of a signal. -/
def signal? (name : String) : Option Nat :=
  match name.toNat? with
  | some number => some number
  | none => List.lookup name signalNumbers

/-- Whether a signal does nothing to a program that does not expect it. -/
def isHarmless (signal : Nat) : Bool :=
  signal == 0 || signal == 17 || signal == 18

/-- The name of the signal that is to be sent, and to whom. -/
def signalRequest (arguments : List String) : String × List String :=
  match arguments with
  | "-s" :: name :: targets => (name, targets)
  | argument :: targets =>
    match argument.toList with
    | '-' :: name => (String.ofList name, targets)
    | _ => ("TERM", arguments)
  | [] => ("TERM", [])

/-- Whether the running process asks itself to terminate. -/
def asksToTerminate (arguments : List String) : Bool :=
  let (name, targets) := signalRequest arguments
  signal? name == some 15 && targets.contains Machine.processNumber

/-- A line that is read: its characters, each with whether a backslash protects it, what stands
behind it, and whether it had an ending. -/
structure ReadLine where
  line : List (Char × Bool)
  rest : List UInt8
  hasEnd : Bool
deriving Repr

/-- Read the line at the start of some bytes. Unless `raw`, a backslash protects the character
behind it, and joins two lines at their end. -/
def readLine (raw : Bool) (bytes : List UInt8) : ReadLine :=
  go bytes.length [] bytes
where
  /-- Read further lines in at most `fuel` steps, as long as they are joined. -/
  go (fuel : Nat) (before : List (Char × Bool)) (bytes : List UInt8) : ReadLine :=
    let (line, rest) := bytes.span (· ≠ 0x0A)
    let text := Text.Utf8.decodeLossy line
    let (characters, joined) :=
      if raw then (text.map (·, false), false) else protect [] text
    match rest, fuel with
    | [], _ => ⟨before ++ characters, [], false⟩
    | _ :: rest, fuel + 1 =>
      if joined then go fuel (before ++ characters) rest else ⟨before ++ characters, rest, true⟩
    | _ :: rest, 0 => ⟨before ++ characters, rest, true⟩
  /-- Take away the backslashes of a line, and tell whether one of them stands at its end. -/
  protect (reversed : List (Char × Bool)) : List Char -> List (Char × Bool) × Bool
    | [] => (reversed.reverse, false)
    | ['\\'] => (reversed.reverse, true)
    | '\\' :: c :: rest => protect ((c, true) :: reversed) rest
    | c :: rest => protect ((c, false) :: reversed) rest

/-- Whether a character of a line separates its fields. -/
def separates (entry : Char × Bool) : Bool :=
  Fields.isSeparator entry.1 && !entry.2

/-- A line cut into as many fields as there are names; the last field takes all that is left. -/
def fieldsFor (line : List (Char × Bool)) : List String -> List (String × String)
  | [] => []
  | [name] =>
    let field := (line.reverse.dropWhile separates).reverse
    [(name, String.ofList (field.map (·.1)))]
  | name :: names =>
    let (field, rest) := line.span fun entry => !separates entry
    (name, String.ofList (field.map (·.1))) :: fieldsFor (rest.dropWhile separates) names

namespace Machine

/-- What a signal does from now on. -/
def trap (machine : Machine) : List String -> Machine
  | "--" :: rest => trap machine rest
  | action :: signals =>
    let machine := machine.withStatus 0
    let machine :=
      if signals.any fun name => signal? name = some 15 then
        { machine with
          onTermination :=
            if action.isEmpty then .ignores
            else if action = "-" then .ends else .handles action }
      else machine
    if signals.any fun name => name = "EXIT" || name = "0" then
      { machine with onExit := if action = "-" then none else some action }
    else machine
  | [] => machine.withStatus 0

/-- Send a signal. Only the running process can be reached. -/
def kill (machine : Machine) (arguments : List String) : Machine :=
  let (name, targets) := signalRequest arguments
  match signal? name, targets.contains processNumber with
  | some 15, true =>
    if machine.onTermination = .ends then { machine with progress := .killed 15 }
    else machine.withStatus 0
  | some signal, true =>
    if isHarmless signal then machine.withStatus 0
    else { machine with progress := .killed signal }
  | _, _ => machine.failing 1 (machine.name ++ ": 1: kill: No such process")

/-- The number that a text counts as in a condition. -/
def numberIn (text : String) : Int :=
  (text.toInt?).getD 0

/-- Whether a single condition on texts, numbers or files holds. -/
def testOne (machine : Machine) : List String -> Bool
  | [] => false
  | [text] => !text.isEmpty
  | ["!", text] => text.isEmpty
  | ["-n", text] => !text.isEmpty
  | ["-z", text] => text.isEmpty
  | ["-e", path] => machine.host.existsAt path
  | ["-f", path] => machine.host.isRegularFile path
  | ["-d", path] => machine.host.existsAt path && !machine.host.isRegularFile path
  | ["-r", path] | ["-w", path] => machine.host.existsAt path
  | ["-s", path] => match machine.host.read path with
    | .ok bytes => !bytes.isEmpty
    | .error _ => false
  | ["-x", path] => machine.host.isExecutable path
  | [left, "=", right] => left == right
  | [left, "!=", right] => left != right
  | [left, "-eq", right] => numberIn left == numberIn right
  | [left, "-ne", right] => numberIn left != numberIn right
  | [left, "-lt", right] => numberIn left < numberIn right
  | [left, "-le", right] => numberIn left ≤ numberIn right
  | [left, "-gt", right] => numberIn right < numberIn left
  | [left, "-ge", right] => numberIn right ≤ numberIn left
  | "!" :: rest => !testOne machine rest
  | _ => false

/-- The parts of a condition between marks. -/
def partsBetween (mark : String) (words : List String) : List (List String) :=
  words.foldr
    (fun word parts => match parts with
      | part :: parts => if word = mark then [] :: part :: parts else (word :: part) :: parts
      | [] => [[word]])
    [[]]

/-- Whether a condition holds. A long one may be joined of others. -/
def test (machine : Machine) (words : List String) : Bool :=
  if words.length ≤ 4 then machine.testOne words
  else (partsBetween "-o" words).any fun part => (partsBetween "-a" part).all machine.testOne

/-- End a command with the status of a condition. -/
def decided (machine : Machine) (holds : Bool) : Machine :=
  machine.withStatus (if holds then 0 else 1)

/-- Read a line into parameters. -/
def read (machine : Machine) (arguments : List String) : Machine :=
  let (raw, names) := match arguments with
    | "-r" :: names => (true, names)
    | names => (false, names)
  if names.isEmpty then machine.failing 2 (machine.name ++ ": 1: read: arg count")
  else if machine.descriptors.intake = .closed then machine.withStatus 1
  else
    let read := readLine raw machine.readable
    let fields := fieldsFor (read.line.dropWhile separates) names
    let machine := fields.foldl (fun machine (name, value) => machine.setParameter name value)
      (machine.leave read.rest)
    machine.decided read.hasEnd

/-- A text with an equals sign as a name and a value. -/
def assignmentIn? (text : String) : Option (String × String) :=
  match text.toList.span (· ≠ '=') with
  | (name, _ :: value) => some (String.ofList name, String.ofList value)
  | _ => none

/-- Set parameters and let other programs see them. -/
def makeVisible (machine : Machine) (arguments : List String) : Machine :=
  arguments.foldl
    (fun machine argument =>
      match assignmentIn? argument with
      | some (name, value) => (machine.setParameter name value).exportParameter name
      | none => machine.exportParameter argument)
    (machine.withStatus 0)

/-- Set parameters inside a named body. -/
def declare (machine : Machine) (arguments : List String) : Machine :=
  arguments.foldl
    (fun machine argument =>
      match assignmentIn? argument with
      | some (name, value) => machine.setParameter name value
      | none => machine)
    (machine.withStatus 0)

/-- Change the ways of the shell, or its arguments. -/
def set (machine : Machine) : List String -> Machine
  | [] => machine.withStatus 0
  | "--" :: arguments => { machine with arguments, status := 0 }
  | argument :: rest =>
    match argument.toList with
    | '-' :: letters =>
      set (if letters.contains 'e' then { machine with failsFast := true } else machine) rest
    | '+' :: letters =>
      set (if letters.contains 'e' then { machine with failsFast := false } else machine) rest
    | _ => { machine with arguments := argument :: rest, status := 0 }

/-- Go to another directory. -/
def goTo (machine : Machine) (path : String) : Machine :=
  match machine.host.tree.locate machine.host.here path with
  | .ok location =>
    if (machine.host.tree.node? location).any Host.Node.mayBeEntered then
      { machine with host := { machine.host with here := location }, status := 0 }
    else machine.failing 2 (machine.name ++ ": 1: cd: can't cd to " ++ path)
  | .error _ => machine.failing 2 (machine.name ++ ": 1: cd: can't cd to " ++ path)

/-- The number that a command is given, or refuse. -/
def withNumber (machine : Machine) (command : String) (arguments : List String) (usual : Nat)
    (use : Nat -> Machine) : Machine :=
  match arguments with
  | [] => use usual
  | text :: _ =>
    match text.toNat? with
    | some number => use number
    | none => machine.refuse (command ++ ": Illegal number: " ++ text)

/-- Leave loops by a kind of progress. Outside of all loops nothing happens. -/
def leaveLoops (machine : Machine) (command : String) (progress : Nat -> Progress)
    (arguments : List String) : Machine :=
  machine.withNumber command arguments 1 fun count =>
    if machine.loops = 0 then machine.withStatus 0
    else { machine with progress := progress (min count machine.loops), status := 0 }

/-- Wait for the programs in the background. -/
def wait (machine : Machine) : Machine :=
  match machine.background with
  | some moment => { machine with clock := max machine.clock moment, status := 0 }
  | none => { machine with progress := .endless }

/-- Carry out a command that is built into the shell. -/
def builtin? (machine : Machine) (name : String) (arguments : List String) : Option Machine :=
  match name with
  | ":" | "true" | "umask" | "ulimit" | "hash" => some (machine.withStatus 0)
  | "pwd" => some (machine.echo false ["/" ++ "/".intercalate machine.host.here])
  | "false" => some (machine.withStatus 1)
  | "echo" => some (machine.echo true arguments)
  | "printf" => some (machine.printf arguments)
  | "exit" => some (machine.withNumber "exit" arguments machine.status fun status =>
      machine.exit (status % 256))
  | "return" => some (machine.withNumber "return" arguments machine.status fun status =>
      { machine with progress := .returning, status := status % 256 })
  | "break" => some (machine.leaveLoops "break" .leaving arguments)
  | "continue" => some (machine.leaveLoops "continue" .skipping arguments)
  | "trap" => some (machine.trap arguments)
  | "read" => some (machine.read arguments)
  | "export" => some (machine.makeVisible arguments)
  | "local" => some (machine.declare arguments)
  | "unset" => some ((arguments.foldl unsetParameter machine).withStatus 0)
  | "set" => some (machine.set arguments)
  | "cd" => some (machine.goTo (arguments.head?.getD (machine.parameter "HOME")))
  | "wait" => some machine.wait
  | "test" => some (machine.decided (machine.test arguments))
  | "[" => some (machine.decided (machine.test arguments.dropLast))
  | "shift" => some (machine.withNumber "shift" arguments 1 fun count =>
      { machine with arguments := machine.arguments.drop count, status := 0 })
  | _ => none

end Machine

end LintClient.Shell
