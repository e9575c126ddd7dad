import LintClient.Shell.Builtin

/-!
# Running programs

A program runs from its start to its end: a tool does its work, the shell evaluates its script. A
command that is not built into the shell runs in a process of its own, and `exec` puts a program in
the place of the shell. Programs that start programs are followed to a fixed depth, and a loop that
does not end within a fixed number of rounds is taken to be endless.
-/

namespace LintClient.Shell

open Host (Program Tool FileFault)

namespace Machine

/-! ## Redirections -/

/-- The outlet of a descriptor. -/
def outletOf (machine : Machine) (descriptor : String) : Outlet :=
  if descriptor = "1" then machine.descriptors.output
  else if descriptor = "2" then machine.descriptors.message
  else
    ((descriptor.toNat?).bind fun number =>
      List.lookup number machine.descriptors.further).getD .closed

/-- Write into a file, which is emptied unless what is written is to stand at its end. -/
def writeInto (machine : Machine) (descriptor : Nat) (path : String) (atEnd : Bool) :
    Except FileFault Machine :=
  if path = "/dev/stdout" then .ok (machine.writeTo descriptor machine.descriptors.output)
  else if path = "/dev/stderr" then .ok (machine.writeTo descriptor machine.descriptors.message)
  else do
    let tree := machine.host.tree
    let location ← tree.locate machine.host.here path
    let prepared ← tree.prepare location atEnd
    let outlet := if tree.node? location = some .sink then .discard else .file location
    pure ((machine.withTree prepared).writeTo descriptor outlet)

/-- Carry out a redirection to a target. -/
def redirectTo (machine : Machine) (direction : Direction) (descriptor : Nat)
    (target : String) : Except FileFault Machine :=
  match direction, descriptor with
  | .copy, 0 => .ok (if target = "0" then machine else machine.readFrom .closed)
  | .copy, descriptor => .ok (machine.writeTo descriptor (machine.outletOf target))
  | .text, 0 => .ok (machine.readFrom (.bytes (Text.Utf8.encode target.toList)))
  | .input, 0 =>
    if target = inputPath then .ok machine
    else match machine.host.read target with
    | .ok bytes => .ok (machine.readFrom (.bytes bytes))
    | .error error => .error error.fault
  | .text, _ | .input, _ => .ok machine
  | .output, descriptor => machine.writeInto descriptor target false
  | .append, descriptor => machine.writeInto descriptor target true

/-- A fault of a redirection and the machine that has met it. -/
structure RedirectionFault where
  machine : Machine
  direction : Direction
  path : String
  fault : FileFault

/-- Carry out redirections. -/
def redirect (runner : Runner) (machine : Machine) :
    List Redirection -> Except RedirectionFault Machine
  | [] => .ok machine
  | redirection :: redirections =>
    let (machine, target) := machine.textOf runner redirection.target
    match machine.redirectTo redirection.direction redirection.descriptor target with
    | .ok machine => redirect runner machine redirections
    | .error fault => .error ⟨machine, redirection.direction, target, fault⟩

/-- What is wrong with a file that cannot be read from or written to. -/
def RedirectionFault.reason (failed : RedirectionFault) : String :=
  let isThere := failed.fault ≠ .missing && failed.fault ≠ .notFolder
  match failed.direction with
  | .output | .append =>
    "create " ++ failed.path ++ ": "
      ++ if isThere then failed.fault.message else "Directory nonexistent"
  | _ =>
    "open " ++ failed.path ++ ": " ++ if isThere then failed.fault.message else "No such file"

/-- Tell that a file cannot be opened. -/
def cannotOpen (failed : RedirectionFault) : Machine :=
  failed.machine.failing 2 (failed.machine.name ++ ": 1: cannot " ++ failed.reason)

/-- Give back the descriptors after a command. -/
def restore (before after : Machine) : Machine :=
  let descriptors := { before.descriptors with
    intake := before.descriptors.intake.continued after.descriptors.intake }
  { after with descriptors }

/-- Carry out redirections, and go on with them for one command unless one of them fails. -/
def redirected (runner : Runner) (machine : Machine) (redirections : List Redirection)
    (next : Machine -> Machine) : Machine :=
  machine.restore (match machine.redirect runner redirections with
    | .ok machine => next machine
    | .error failed => cannotOpen failed)

/-! ## Commands -/

/-- The program of a command of the shell. A file that may be executed but is no program is a
script. -/
def programOf (machine : Machine) (name : String) (arguments : List String) :
    Except FileFault Program :=
  let host := { machine.host with environment := machine.parameters }
  match host.program? name with
  | none => .error (if host.existsAt name && Host.hasDirectory name then .denied else .missing)
  | some path =>
    match Host.programIn host Host.interpreterDepth path arguments with
    | .error .notProgram => .ok ⟨.shell, path :: arguments⟩
    | result => result

/-- Tell why a command has no program, with the status for it. -/
def withoutProgram (machine : Machine) (command : String) (fault : FileFault) : Machine :=
  let start := machine.name ++ ": 1: " ++ command ++ ": "
  if fault = .missing then machine.failing 127 (start ++ "not found")
  else machine.failing 126 (start ++ fault.message)

/-- Run a command in a process of its own. -/
def external (runner : Runner) (machine : Machine) (name : String) (arguments : List String) :
    Machine :=
  match machine.programOf name arguments with
  | .ok program => machine.resume (runner.program machine.fork.forProgram program)
  | .error fault => machine.withoutProgram name fault

/-- Put a program in the place of the shell. Redirections stay, and without a program the shell goes
on with them. -/
def exec (runner : Runner) (machine : Machine) (words : List String)
    (redirections : List Redirection) : Machine :=
  match machine.redirect runner redirections with
  | .error failed => (cannotOpen failed).exit 2
  | .ok changed =>
    let changed :=
      if machine.alone && machine.descriptors.intake = .source
          && changed.descriptors.intake ≠ .source then changed.closeSource
      else changed
    match words with
    | [] => changed.withStatus 0
    | name :: arguments =>
      match changed.programOf name arguments with
      | .ok program =>
        let onTermination : OnTermination :=
          if changed.onTermination = .ignores then .ignores else .ends
        runner.program { changed.forProgram with onTermination } program
      | .error fault =>
        let failed := changed.withoutProgram ("exec: " ++ name) fault
        failed.exit failed.status

/-- Run a named body with arguments of its own. -/
def callFunction (runner : Runner) (machine : Machine) (body : Script)
    (arguments : List String) : Machine :=
  let after := runner.script { machine with arguments, loops := 0 } body
  { after with
    arguments := machine.arguments
    loops := machine.loops
    progress := if after.progress = .returning then .running else after.progress }

/-- Evaluate a text as a part of the script. -/
def evaluateText (runner : Runner) (machine : Machine) (text : String) : Machine :=
  match script text.toList with
  | .ok script => runner.script (machine.withStatus 0) script
  | .error fault => machine.refuse fault.message

/-- Run the command that some words make. -/
def runCommand (runner : Runner) (machine : Machine) (name : String)
    (arguments : List String) : Machine :=
  match machine.functions.lookup name, machine.builtin? name arguments with
  | some body, _ => callFunction runner machine body arguments
  | none, some after => after
  | none, none =>
    match name, arguments with
    | "kill", _ =>
      match machine.onTermination, asksToTerminate arguments with
      | .handles action, true => evaluateText runner machine action
      | _, _ => machine.kill arguments
    | "eval", _ => evaluateText runner machine (" ".intercalate arguments)
    | ".", path :: _ =>
      match machine.host.read path with
      | .ok bytes => evaluateText runner machine (String.ofList (Text.Utf8.decodeLossy bytes))
      | .error _ => machine.refuse (".: cannot open " ++ path)
    | "command", "-v" :: name :: _ =>
      match machine.builtin? name [], machine.host.program? name with
      | some _, _ => machine.echo false [name]
      | none, some path => machine.echo false [path]
      | none, none => machine.withStatus 127
    | "command", name :: arguments =>
      match machine.builtin? name arguments with
      | some after => after
      | none => external runner machine name arguments
    | _, _ => external runner machine name arguments

/-- Set parameters to the texts of words. -/
def assign (runner : Runner) (machine : Machine) (assignments : List (String × Word)) : Machine :=
  assignments.foldl
    (fun machine (name, word) =>
      let (machine, value) := machine.textOf runner word
      machine.setParameter name value)
    machine

/-- Take back assignments that held for one command. -/
def takeBack (before after : Machine) (names : List String) : Machine :=
  let after := names.foldl
    (fun after name =>
      match before.parameters.lookup name with
      | some value => after.setParameter name value
      | none => after.unsetParameter name)
    after
  { after with exported := before.exported }

/-- Whether a word holds a script whose output is wanted. -/
def holdsScript (word : Word) : Bool :=
  word.any fun
    | .expansion (.output _) _ => true
    | _ => false

/-- End a command without words: the status is that of the scripts in its assignments. -/
def settled (machine : Machine) (assignments : List (String × Word)) : Machine :=
  if assignments.any fun (_, word) => holdsScript word then machine else machine.withStatus 0

/-- Run a simple command. Assignments in front of a command hold for it alone. -/
def runSimple (runner : Runner) (machine : Machine) (command : Simple) : Machine :=
  let (machine, words) := machine.fields runner command.words
  if !machine.isRunning then machine
  else match words with
  | [] =>
    redirected runner machine command.redirections fun machine =>
      (machine.assign runner command.assignments).settled command.assignments
  | name :: arguments =>
    let names := command.assignments.map (·.1)
    let assigned :=
      names.foldl exportParameter (machine.assign runner command.assignments)
    if !assigned.isRunning then assigned
    else if name = "exec" then exec runner assigned arguments command.redirections
    else
      let after := redirected runner assigned command.redirections fun machine =>
        runCommand runner machine name arguments
      if names.isEmpty then after else machine.takeBack after names

/-! ## Loops -/

/-- The number of rounds after which a loop is taken to be endless. -/
def roundLimit : Nat := 20000

/-- What a loop makes of a round, and whether another round may follow. -/
def afterRound (machine : Machine) : Machine × Bool :=
  match machine.progress with
  | .running => (machine, true)
  | .leaving 1 => ({ machine with progress := .running }, false)
  | .leaving (count + 1) => ({ machine with progress := .leaving count }, false)
  | .skipping 1 => ({ machine with progress := .running }, true)
  | .skipping (count + 1) => ({ machine with progress := .skipping count }, false)
  | _ => (machine, false)

/-- Go into a loop, or out of it. -/
def withLoops (machine : Machine) (loops : Nat) : Machine :=
  { machine with loops }

/-- Repeat a body as long as a condition holds. The status is that of the last round. -/
def rounds (holds : Machine -> Machine × Bool) (body : Machine -> Machine) (status : Nat) :
    Nat -> Machine -> Machine
  | 0, machine => { machine with progress := .endless }
  | count + 1, machine =>
    let (checked, again) := holds machine
    if !checked.isRunning then checked.afterRound.1
    else if !again then checked.withStatus status
    else
      let (after, more) := (body checked).afterRound
      if more then rounds holds body after.status count after else after

/-- Do a body for each value. -/
def eachRound (body : String -> Machine -> Machine) : List String -> Machine -> Machine
  | [], machine => machine
  | value :: values, machine =>
    let (after, more) := (body value machine).afterRound
    if more then eachRound body values after else after

/-! ## Scripts -/

/-- Let a program run beside the shell. It reads nothing, and the pipes stay open for it. -/
def beside (machine : Machine) (body : Machine -> Machine) : Machine :=
  let after := body (machine.fork.readFrom (.bytes []))
  let writes := machine.descriptors.output = .output || machine.descriptors.message = .message
  let finish : Option Launch.Moment := if after.progress = .endless then none else some after.clock
  { machine with
    arrivals := after.arrivals
    holders := if writes then (machine.clock, finish) :: after.holders else machine.holders
    background := Launch.later machine.background finish
    status := 0 }

/-- Join two programs by a pipe. -/
def joined (machine : Machine) (left right : Machine -> Machine) : Machine :=
  let writer := left { machine.fork.writeTo 1 .pipe with outgoing := [] }
  let between := machine.resume writer
  let reader := right { between.fork.readFrom .pipe with
    incoming := writer.outgoing.reverse.flatten
    outgoing := machine.outgoing }
  { between.resume reader with incoming := machine.incoming }

/-- Evaluate a condition: that it fails is no reason to end the shell. -/
def asCondition (machine : Machine) (evaluate : Machine -> Machine) : Machine :=
  let after := evaluate { machine with failsFast := false }
  { after with failsFast := machine.failsFast }

/-- End the shell if a command has failed and it is to end then. -/
def checked (machine : Machine) : Machine :=
  if machine.failsFast && machine.isRunning && machine.status ≠ 0 then
    machine.exit machine.status
  else machine

/-- Whether one of some patterns matches a text. -/
def matchesAny (runner : Runner) (machine : Machine) (patterns : List Word) (text : String) :
    Machine × Bool :=
  patterns.foldl
    (fun (machine, found) word =>
      let (machine, pattern) := machine.patternOf runner word
      (machine, found || pattern.admits text.toList))
    (machine, false)

/-- Evaluate a script. -/
def evaluate (runner : Runner) (script : Script) (machine : Machine) : Machine :=
  if !machine.isRunning then machine
  else match script with
  | .nothing => machine
  | .simple command => (runSimple runner machine command).checked
  | .sequence first second => evaluate runner second (evaluate runner first machine)
  | .andThen first second =>
    let after := machine.asCondition (evaluate runner first)
    if after.isRunning && after.status = 0 then evaluate runner second after else after
  | .orElse first second =>
    let after := machine.asCondition (evaluate runner first)
    if after.status = 0 then after else evaluate runner second after
  | .pipe first second => (joined machine (evaluate runner first) (evaluate runner second)).checked
  | .background body => beside machine (evaluate runner body)
  | .negate body =>
    let after := machine.asCondition (evaluate runner body)
    if after.isRunning then after.decided (after.status ≠ 0) else after
  | .subshell body redirections =>
    let after := redirected runner machine.fork redirections (evaluate runner body)
    (machine.resume after).checked
  | .group body redirections => redirected runner machine redirections (evaluate runner body)
  | .each name items body =>
    let (machine, values) := match items with
      | some words => machine.fields runner words
      | none => (machine, machine.arguments)
    let start := (machine.withStatus 0).withLoops (machine.loops + 1)
    (eachRound (fun value machine => evaluate runner body (machine.setParameter name value))
      values start).withLoops machine.loops
  | .choose condition yes no =>
    let after := machine.asCondition (evaluate runner condition)
    if !after.isRunning then after
    else if after.status = 0 then evaluate runner yes after else evaluate runner no after
  | .repeating succeeds condition body =>
    let holds (machine : Machine) : Machine × Bool :=
      let after := machine.asCondition (evaluate runner condition)
      (after, (after.status = 0) = succeeds)
    (rounds holds (evaluate runner body) 0 roundLimit
      (machine.withLoops (machine.loops + 1))).withLoops machine.loops
  | .matching subject patterns body otherwise =>
    let (machine, text) := machine.textOf runner subject
    let (machine, found) := machine.matchesAny runner patterns text
    if found then evaluate runner body (machine.withStatus 0)
    else evaluate runner otherwise machine
  | .define name body =>
    { machine with functions := (name, body) :: machine.functions, status := 0 }

/-! ## Programs -/

/-- End a program that has run to the end of its text. -/
def ended (machine : Machine) : Machine :=
  match machine.progress with
  | .running | .leaving _ | .skipping _ | .returning => machine.exit machine.status
  | _ => machine

/-- Do what the shell does before it exits. -/
def leaveShell (runner : Runner) (machine : Machine) : Machine :=
  match machine.progress, machine.onExit with
  | .exited status, some text =>
    let after := evaluateText runner { machine with progress := .running, onExit := none } text
    if after.isRunning then after.exit status else after.ended
  | _, _ => machine

/-- Run the text of a script. -/
def runText (runner : Runner) (machine : Machine) (name : String) (arguments : List String)
    (text : List Char) : Machine :=
  let machine := { machine with name, arguments, status := 0 }
  match script text with
  | .ok script => leaveShell runner (evaluate runner script machine).ended
  | .error fault => machine.refuse fault.message

/-- Run the shell: on a text, on a file, or on its input. -/
def runShell (runner : Runner) (machine : Machine) : List String -> Machine
  | [] =>
    let text := Text.Utf8.decodeLossy machine.readable
    runText runner (machine.leave []) "sh" [] text
  | argument :: rest =>
    match argument.toList with
    | '-' :: letters =>
      let machine := if letters.contains 'e' then { machine with failsFast := true } else machine
      if letters.contains 'c' then
        match rest with
        | text :: name :: arguments => runText runner machine name arguments text.toList
        | [text] => runText runner machine "sh" [] text.toList
        | [] => (machine.failing 2 "sh: 0: -c requires an argument").ended
      else runShell runner machine rest
    | _ =>
      match machine.host.read argument with
      | .ok bytes => runText runner machine argument rest (Text.Utf8.decodeLossy bytes)
      | .error _ => (machine.failing 2 ("sh: 0: cannot open " ++ argument)).ended

/-- Run the program that arguments name, with the settings in front of it. -/
def runNamed (runner : Runner) (machine : Machine) : List String -> Machine
  | [] =>
    let lines := machine.parameters.flatMap fun (name, value) =>
      name.toList ++ '=' :: value.toList ++ ['\n']
    ((machine.withStatus 0).say "env" (Text.Utf8.encode lines)).ended
  | name :: arguments =>
    match assignmentIn? name with
    | some (name, value) =>
      runNamed runner ((machine.setParameter name value).exportParameter name) arguments
    | none =>
      match machine.programOf name arguments with
      | .ok program => runner.program machine program
      | .error fault =>
        let complaint := "env: '" ++ name ++ "': " ++ fault.message
        (machine.failing (if fault = .missing then 127 else 126) complaint).ended

/-- Run a tool. -/
def runTool (runner : Runner) (machine : Machine) (tool : Tool) (arguments : List String) :
    Machine :=
  match tool with
  | .shell => runShell runner machine arguments
  | .cat => (machine.cat arguments).ended
  | .head => (machine.head arguments).ended
  | .tail => (machine.tail arguments).ended
  | .reverse => (machine.tac arguments).ended
  | .count => (machine.count arguments).ended
  | .transliterate => (machine.transliterate arguments).ended
  | .sequence => (machine.sequence arguments).ended
  | .repeatLine => (machine.repeatLine arguments).ended
  | .duplicate => (machine.duplicate arguments).ended
  | .echo => (machine.echo false arguments).ended
  | .printf => (machine.printf arguments).ended
  | .sleep => (machine.sleep arguments).ended
  | .test => (machine.decided (machine.test arguments)).ended
  | .succeed => machine.exit 0
  | .fail => machine.exit 1
  | .env => runNamed runner machine arguments

/-- Ways to run something, where programs and scripts may be started within one another `depth`
times. -/
def runner (depth : Nat) : Runner :=
  match depth with
  | 0 =>
    { program := fun machine _ => { machine with progress := .endless }
      script := fun machine _ => { machine with progress := .endless } }
  | depth + 1 =>
    let inner := runner depth
    { program := fun machine program => runTool inner machine program.tool program.arguments
      script := fun machine script => evaluate inner script machine }

end Machine

/-- How deep programs that start programs are followed. -/
def processDepth : Nat := 64

end LintClient.Shell
