import LintClient.Shell.Evaluation

/-!
# Starting a child

A command whose program the host has is started: what its child does is a function of the text that
the child is given. The words of a command may have halves of surrogate pairs that stand for bytes;
the programs of a host see replacement characters in their place.
-/

namespace LintClient.Launch

open Shell (Machine)
open Text (Source)

/-- A way to start commands on hosts. -/
abbrev Launcher := Host -> Source -> List Source -> Except Host.StartFault (List UInt8 -> Child)

/-- The life of a child, from the state at its end. -/
def childOf (machine : Machine) : Child :=
  let exit : Option Moment :=
    if machine.progress = .endless then none else some machine.clock
  { arrivals := machine.arrivals.reverse.mergeSort fun left right => left.1 ≤ right.1
    delivery := machine.delivery.getD (match exit with
      | some moment => .broken moment
      | none => .stuck)
    closed := exit.bind (heldAfter machine.holders)
    exit
    status := match machine.progress with
      | .killed signal => -(signal : Int)
      | _ => machine.status
    obeysTermination := machine.onTermination == .ends
    holders := machine.holders
    files := machine.host.tree }

/-- Start a command. The first word with which something is wrong stops it. -/
def start : Launcher := fun host name arguments => do
  if let some fault := (name :: arguments).findSome? Host.wordFault? then throw fault
  let some characters := name.characters? | throw (.noProgram name)
  let program ← Host.programOf host (String.ofList characters)
    (arguments.map fun word => String.ofList word.replaced)
  pure fun text =>
    childOf ((Machine.runner Shell.processDepth).program (Machine.start host text) program)

end LintClient.Launch
