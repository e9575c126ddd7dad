import LintClient.Host.FileTree
import LintClient.Number.Binary64

/-!
# Child processes

What a child process does as its parent sees it: what arrives from it and when, how far it takes the
text that it is given, when its pipes are closed, and when and how it exits. Moments are counted in
microseconds from the start of the child.
-/

namespace LintClient.Launch

/-- A moment in the life of a child. -/
abbrev Moment := Nat

/-- The moment after a number of seconds, if it is ever reached. Negative numbers are over at
once. -/
def momentAfter? (seconds : Binary64) : Option Moment :=
  seconds.units?.map fun units => units.toNat * 1000000 / powerOfTwo 1074

/-- The later one of two moments; `none` is never. -/
def later (first second : Option Moment) : Option Moment :=
  match first, second with
  | some first, some second => some (max first second)
  | _, _ => none

/-- Up to when other processes hold pipes that nobody else holds from a moment on, given from when
and up to when each of them does. -/
def heldAfter (holders : List (Moment × Option Moment)) (moment : Moment) : Option Moment :=
  holders.foldl (fun held (start, finish) => if start ≤ moment then later held finish else held)
    (some moment)

/-- Something that arrives from a child. -/
inductive Arrival where
  /-- A chunk of its output. -/
  | output (bytes : List UInt8)
  /-- A chunk of what it writes about itself. -/
  | message (bytes : List UInt8)
deriving DecidableEq, Repr

/-- How the delivery of a text to a child ends. -/
inductive Delivery where
  /-- The text is taken. -/
  | taken (moment : Moment)
  /-- The child stops reading before it has taken the text. -/
  | broken (moment : Moment)
  /-- The child neither takes the text nor stops reading. -/
  | stuck
deriving DecidableEq, Repr

/-- The life of a child that nobody interrupts, and what keeps its pipes open if it is stopped.
Other processes may hold the pipes longer than the child lives; what they write into them once the
child has been stopped is left out. -/
structure Child where
  /-- What arrives, in order. -/
  arrivals : List (Moment × Arrival)
  delivery : Delivery
  /-- When both pipes that the child writes into are closed, if ever. -/
  closed : Option Moment
  /-- When the child exits, if ever. -/
  exit : Option Moment
  /-- The exit status; the negative number of a signal that ends the child. -/
  status : Int
  /-- Whether a request to terminate ends the child. -/
  obeysTermination : Bool
  /-- From when and up to when other processes hold the pipes; `none` is forever. -/
  holders : List (Moment × Option Moment)
  /-- The files as the child leaves them. -/
  files : Host.FileTree
deriving DecidableEq, Repr

/-- The number of bytes that wait for a child that does not read its input. -/
def inputCapacity : Nat := 219264

end LintClient.Launch
