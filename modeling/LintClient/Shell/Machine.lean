import LintClient.Host.Basic
import LintClient.Launch.Child
import LintClient.Shell.Script
import LintClient.Text.Utf8

/-!
# The machine that runs programs

The state of a child process while its program runs: the clock, what is left of the text on its
standard input, what it has written, and, where the program is the shell, the parameters and
descriptors of the shell.
-/

namespace LintClient.Shell

open Launch (Moment Arrival Delivery)

/-- Where a program reads from. -/
inductive Intake where
  /-- The text that the child is given. -/
  | source
  /-- The pipe from the program before. -/
  | pipe
  | bytes (bytes : List UInt8)
  | closed
deriving DecidableEq, Repr

/-- Where a program reads from when another one has read before it from `after`: what is left of
the same bytes, and otherwise its own intake. -/
def Intake.continued (before after : Intake) : Intake :=
  match before, after with
  | .bytes _, .bytes rest => .bytes rest
  | before, _ => before

/-- Where a program writes to. -/
inductive Outlet where
  | output
  | message
  /-- The pipe to the program behind. -/
  | pipe
  | discard
  | file (location : Host.Location)
  | closed
deriving DecidableEq, Repr

/-- The descriptors of a program. -/
structure Descriptors where
  intake : Intake
  output : Outlet
  message : Outlet
  /-- Descriptors with further numbers, by which the shell keeps outlets. -/
  further : List (Nat × Outlet)
deriving DecidableEq, Repr

/-- Whether and how a program has come to its end. -/
inductive Progress where
  | running
  | exited (status : Nat)
  | killed (signal : Nat)
  /-- The program runs forever. -/
  | endless
  /-- The shell leaves so many loops. -/
  | leaving (loops : Nat)
  /-- The shell leaves so many loops, but goes on with the next round of the last one. -/
  | skipping (loops : Nat)
  /-- The shell leaves a named body. -/
  | returning
deriving DecidableEq, Repr

/-- The status of a program that ran inside another one, where `status` is that of its last
command. -/
def Progress.statusInside (status : Nat) : Progress -> Nat
  | .exited status => status
  | .killed signal => 128 + signal
  | _ => status

/-- What a program does when it is asked to terminate. -/
inductive OnTermination where
  | ends
  | ignores
  /-- It evaluates a text. -/
  | handles (action : String)
deriving DecidableEq, Repr

/-- The state of a child process. -/
structure Machine where
  host : Host
  clock : Moment
  /-- What is left of the text that the child is given, and how its delivery ended. -/
  source : List UInt8
  delivery : Option Delivery
  /-- The bytes in the pipe from the program before. -/
  incoming : List UInt8
  /-- The bytes for the program behind, in reverse order of chunks. -/
  outgoing : List (List UInt8)
  /-- What the child has written, in reverse order. -/
  arrivals : List (Moment × Arrival)
  /-- From when and up to when programs in the background hold the pipes; `none` is forever. -/
  holders : List (Moment × Option Moment)
  /-- When the last program in the background ends; `none` is never. -/
  background : Option Moment
  progress : Progress
  onTermination : OnTermination
  /-- Whether no other process of the child can read the text. -/
  alone : Bool
  descriptors : Descriptors
  parameters : List (String × String)
  /-- The names of the parameters that other programs see. -/
  exported : List String
  /-- The bodies that have names. -/
  functions : List (String × Script)
  /-- The name of the running script. -/
  name : String
  arguments : List String
  /-- The number of loops around the command. -/
  loops : Nat
  /-- Whether a command that fails ends the shell. -/
  failsFast : Bool
  /-- What the shell does before it exits. -/
  onExit : Option String
  /-- The exit status of the last command. -/
  status : Nat
deriving Repr

namespace Machine

/-- Whether the program goes on. -/
def isRunning (machine : Machine) : Bool :=
  machine.progress == .running

/-- Note that the text is taken once what is left of it can wait for the program. -/
def settleDelivery (machine : Machine) : Machine :=
  match machine.delivery with
  | some _ => machine
  | none =>
    if (machine.source.drop Launch.inputCapacity).isEmpty then
      { machine with delivery := some (.taken machine.clock) }
    else machine

/-- A child at its start, with the text that it is given. -/
def start (host : Host) (text : List UInt8) : Machine :=
  settleDelivery {
    host, source := text
    clock := 0, delivery := none, incoming := [], outgoing := [], arrivals := []
    holders := [], background := some 0
    progress := .running, onTermination := .ends, alone := true
    descriptors := ⟨.source, .output, .message, []⟩
    parameters := host.environment, exported := host.environment.map (·.1), functions := []
    name := "", arguments := [], loops := 0, failsFast := false, onExit := none, status := 0 }

/-- Close the end of the pipe from which the text is read. -/
def closeSource (machine : Machine) : Machine :=
  match machine.delivery with
  | some _ => machine
  | none => { machine with delivery := some (.broken machine.clock) }

/-- The bytes that can be read. -/
def readable (machine : Machine) : List UInt8 :=
  match machine.descriptors.intake with
  | .source => machine.source
  | .pipe => machine.incoming
  | .bytes bytes => bytes
  | .closed => []

/-- Leave only some bytes to be read. -/
def leave (machine : Machine) (rest : List UInt8) : Machine :=
  match machine.descriptors.intake with
  | .source => settleDelivery { machine with source := rest }
  | .pipe => { machine with incoming := rest }
  | .bytes _ =>
    let descriptors := { machine.descriptors with intake := .bytes rest }
    { machine with descriptors }
  | .closed => machine

/-- The machine with other files. -/
def withTree (machine : Machine) (tree : Host.FileTree) : Machine :=
  { machine with host := { machine.host with tree } }

/-- Append bytes to a file. -/
def appendTo (machine : Machine) (location : Host.Location) (bytes : List UInt8) : Machine :=
  machine.withTree (machine.host.tree.extend location bytes)

/-- Write bytes. What is written about the child at one moment arrives as one chunk. -/
def write (machine : Machine) (outlet : Outlet) (bytes : List UInt8) : Machine :=
  if bytes.isEmpty then machine
  else match outlet, machine.arrivals with
  | .output, arrivals =>
    { machine with arrivals := (machine.clock, .output bytes) :: arrivals }
  | .message, (moment, .message earlier) :: arrivals =>
    if moment = machine.clock then
      { machine with arrivals := (moment, .message (earlier ++ bytes)) :: arrivals }
    else { machine with arrivals := (machine.clock, .message bytes) :: machine.arrivals }
  | .message, arrivals =>
    { machine with arrivals := (machine.clock, .message bytes) :: arrivals }
  | .pipe, _ => { machine with outgoing := bytes :: machine.outgoing }
  | .file location, _ => machine.appendTo location bytes
  | .discard, _ | .closed, _ => machine

/-- Write a line about the program. -/
def complain (machine : Machine) (text : String) : Machine :=
  machine.write machine.descriptors.message (Text.Utf8.encode (text.toList ++ ['\n']))

/-- End a command with a status. -/
def withStatus (machine : Machine) (status : Nat) : Machine :=
  { machine with status }

/-- End the program with a status. -/
def exit (machine : Machine) (status : Nat) : Machine :=
  { machine with progress := .exited status, status }

/-- Complain and end a command with a status. -/
def failing (machine : Machine) (status : Nat) (text : String) : Machine :=
  (machine.complain text).withStatus status

/-- Let time pass. -/
def pass (machine : Machine) (duration : Moment) : Machine :=
  { machine with clock := machine.clock + duration }

/-- Write what a program has to say, which fails if nobody can read it. -/
def say (machine : Machine) (program : String) (bytes : List UInt8) : Machine :=
  if machine.descriptors.output = .closed && !bytes.isEmpty then
    machine.failing 1 (program ++ ": write error: Bad file descriptor")
  else machine.write machine.descriptors.output bytes

/-- Read from somewhere else. -/
def readFrom (machine : Machine) (intake : Intake) : Machine :=
  let descriptors := { machine.descriptors with intake }
  { machine with descriptors }

/-- Write somewhere else. -/
def writeTo (machine : Machine) (descriptor : Nat) (outlet : Outlet) : Machine :=
  let descriptors :=
    if descriptor = 2 then { machine.descriptors with message := outlet }
    else if descriptor = 1 then { machine.descriptors with output := outlet }
    else { machine.descriptors with
      further := (descriptor, outlet) :: machine.descriptors.further }
  { machine with descriptors }

/-- The start of a process of its own. It does not handle a request to terminate in the way of its
parent, but still ignores it. -/
def fork (machine : Machine) : Machine :=
  { machine with
    alone := false
    background := some 0
    onExit := none
    onTermination := if machine.onTermination = .ignores then .ignores else .ends }

/-- Go on behind a program that ran in a process of its own, with the shell's own state as it was
before. A program that runs forever does not let the shell go on. -/
def resume (before after : Machine) : Machine :=
  { before with
    host := { after.host with here := before.host.here }
    clock := after.clock
    source := after.source
    delivery := after.delivery
    incoming := after.incoming
    outgoing := after.outgoing
    arrivals := after.arrivals
    holders := after.holders
    progress := if after.progress = .endless then .endless else before.progress
    descriptors := { before.descriptors with
      intake := before.descriptors.intake.continued after.descriptors.intake }
    status := after.progress.statusInside after.status }

/-- The identity of the running process, as the shell shows it. -/
def processNumber : String := "1"

/-- The value of a parameter as one text, if it is set. -/
def parameter? (machine : Machine) (name : String) : Option String :=
  match name.toNat? with
  | some 0 => some machine.name
  | some (index + 1) => machine.arguments[index]?
  | none =>
    if name = "?" then some (toString machine.status)
    else if name = "#" then some (toString machine.arguments.length)
    else if name = "$" then some processNumber
    else if name = "-" then some (if machine.failsFast then "e" else "")
    else if name = "@" || name = "*" then
      if machine.arguments.isEmpty then none else some (" ".intercalate machine.arguments)
    else machine.parameters.lookup name

/-- The value of a parameter as one text. -/
def parameter (machine : Machine) (name : String) : String :=
  (machine.parameter? name).getD ""

/-- Remove a parameter. -/
def unsetParameter (machine : Machine) (name : String) : Machine :=
  { machine with
    parameters := machine.parameters.filter fun entry => entry.1 ≠ name
    exported := machine.exported.filter (· ≠ name) }

/-- Set a parameter. -/
def setParameter (machine : Machine) (name value : String) : Machine :=
  { machine with
    parameters := (name, value) :: machine.parameters.filter fun entry => entry.1 ≠ name }

/-- Let other programs see a parameter. -/
def exportParameter (machine : Machine) (name : String) : Machine :=
  { machine with exported := name :: machine.exported }

/-- The state in which another program starts: it sees the exported parameters only. -/
def forProgram (machine : Machine) : Machine :=
  { machine with
    parameters := machine.parameters.filter fun entry => machine.exported.contains entry.1
    functions := [], loops := 0, failsFast := false, onExit := none }

end Machine

end LintClient.Shell
