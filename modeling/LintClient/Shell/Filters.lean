import LintClient.Shell.Tools

/-!
# Filters

Small programs that turn the lines or characters of their input into others, and programs that
write lines of their own.
-/

namespace LintClient.Shell

/-- The lines of some bytes, each with its ending. -/
def linesOf (bytes : List UInt8) : List (List UInt8) :=
  let (lines, last) := bytes.foldl
    (fun (lines, current) (byte : UInt8) =>
      if byte = 0x0A then ((byte :: current).reverse :: lines, []) else (lines, byte :: current))
    (([] : List (List UInt8)), ([] : List UInt8))
  (if last.isEmpty then lines else last.reverse :: lines).reverse

/-- The part at the end of a text that is wanted. -/
inductive Remainder where
  | lastLines (count : Nat)
  /-- From the line with this number on. -/
  | linesFrom (first : Nat)
  | lastBytes (count : Nat)
  | bytesFrom (first : Nat)
deriving DecidableEq, Repr

/-- The wanted part of some bytes. -/
def Remainder.of (bytes : List UInt8) : Remainder -> List UInt8
  | .lastLines count =>
    let lines := linesOf bytes
    (lines.drop (lines.length - count)).flatten
  | .linesFrom first => ((linesOf bytes).drop (first - 1)).flatten
  | .lastBytes count => bytes.drop (bytes.length - count)
  | .bytesFrom first => bytes.drop (first - 1)

/-- The part that a count asks for, which is a place if a plus stands before it. -/
def remainder? (inLines : Bool) (count : List Char) : Option Remainder :=
  match count with
  | '+' :: digits => (String.ofList digits).toNat?.map fun first =>
    if inLines then .linesFrom first else .bytesFrom first
  | digits =>
    let digits := if digits.head? = some '-' then digits.tail else digits
    (String.ofList digits).toNat?.map fun count =>
      if inLines then .lastLines count else .lastBytes count

/-- The wanted part and the files that options and arguments ask for. -/
def tailRequest (wanted : Remainder) : List String -> Option (Remainder × List String)
  | "-n" :: count :: rest =>
    (remainder? true count.toList).bind fun wanted => tailRequest wanted rest
  | "-c" :: count :: rest =>
    (remainder? false count.toList).bind fun wanted => tailRequest wanted rest
  | argument :: rest =>
    match argument.toList with
    | '-' :: 'n' :: count =>
      (remainder? true count).bind fun wanted => tailRequest wanted rest
    | '-' :: 'c' :: count =>
      (remainder? false count).bind fun wanted => tailRequest wanted rest
    | '-' :: c :: count =>
      (remainder? true (c :: count)).bind fun wanted => tailRequest wanted rest
    | _ => some (wanted, argument :: rest)
  | [] => some (wanted, [])

/-- The characters that a set names: ranges, escapes and the letters of one case. -/
def characterSet (fuel : Nat) (text : List Char) : List Char :=
  match fuel, text with
  | fuel + 1, '[' :: ':' :: rest =>
    let (name, after) := rest.span (· ≠ ':')
    let letters (first : Char) : List Char :=
      (List.range 26).map fun index => Char.ofNat (first.toNat + index)
    let members :=
      if name = "upper".toList then letters 'A'
      else if name = "lower".toList then letters 'a'
      else if name = "digit".toList then
        (List.range 10).map fun index => Char.ofNat ('0'.toNat + index)
      else if name = "alpha".toList then letters 'A' ++ letters 'a'
      else if name = "space".toList then [' ', '\t', '\n', '\x0b', '\x0c', '\r']
      else []
    members ++ characterSet fuel (after.drop 2)
  | fuel + 1, '\\' :: c :: rest =>
    let member : Char := match letterEscape? c with
      | some byte => Char.ofNat byte.toNat
      | none => c
    member :: characterSet fuel rest
  | fuel + 1, first :: '-' :: last :: rest =>
    (List.range (last.toNat + 1 - first.toNat)).map
        (fun index => Char.ofNat (first.toNat + index))
      ++ characterSet fuel rest
  | fuel + 1, c :: rest => c :: characterSet fuel rest
  | _, _ => []

/-- The characters that a set names. -/
def setOf (text : String) : List Char :=
  characterSet text.length text.toList

/-- The character that takes the place of another one: the one at the same place of the second set,
or its last one. -/
def transliterated (old new : List Char) (c : Char) : Char :=
  match old.idxOf? c with
  | some index => (new[index]?).getD (new.getLast?.getD c)
  | none => c

/-- The whole numbers from one to another in steps. -/
def numbersFrom (first step last : Int) : List Int :=
  if step = 0 then []
  else
    let count := (last - first).tdiv step
    if (0 < step && last < first) || (step < 0 && first < last) then []
    else (List.range (count.toNat + 1)).map fun index => first + step * Int.ofNat index

/-- The number of bytes that a program without an end writes into a pipe before it is no longer
heard. -/
def endlessLength : Nat := 1048576

namespace Machine

/-- Write some part of the input, or of files, in the way of a program. -/
def filter (machine : Machine) (program : String) (files : List String)
    (use : List UInt8 -> List UInt8) : Machine :=
  let (machine, bytes) := machine.contents program files
  machine.say program (use bytes)

/-- Write the last lines. -/
def tail (machine : Machine) (arguments : List String) : Machine :=
  match tailRequest (.lastLines 10) arguments with
  | some (wanted, files) => machine.filter "tail" files wanted.of
  | none => machine.failing 1 "tail: invalid option"

/-- Write the lines in reverse order. -/
def tac (machine : Machine) (arguments : List String) : Machine :=
  machine.filter "tac" arguments fun bytes => (linesOf bytes).reverse.flatten

/-- Count lines, words and bytes, or one of them. Several counts stand in places of seven
characters. -/
def count (machine : Machine) (arguments : List String) : Machine :=
  let (options, files) := arguments.span fun argument => argument.toList.head? = some '-'
  let letters := options.flatMap fun option => option.toList.drop 1
  let (machine, bytes) := machine.contents "wc" files
  let text := Text.Utf8.decodeLossy bytes
  let counts : List (Char × Nat) := [('l', bytes.count 0x0A), ('w', (Text.words text).length),
    ('m', text.length), ('c', bytes.length)]
  let wanted := counts.filter fun (letter, _) =>
    if letters.isEmpty then letter ≠ 'm' else letters.contains letter
  let width := if wanted.length = 1 then 0 else 7
  let placed := wanted.map fun (_, count) =>
    let digits := (toString count).toList
    List.replicate (width - digits.length) ' ' ++ digits
  let names := files.map fun path => ' ' :: path.toList
  machine.say "wc" (Text.Utf8.encode (Text.join [' '] placed ++ names.flatten ++ ['\n']))

/-- Replace characters of the input by others, or take them out. -/
def transliterate (machine : Machine) (arguments : List String) : Machine :=
  let mapped (use : List Char -> List Char) : Machine :=
    machine.filter "tr" [] fun bytes => Text.Utf8.encode (use (Text.Utf8.decodeLossy bytes))
  match arguments with
  | ["-d", unwanted] =>
    let unwanted := setOf unwanted
    mapped fun text => text.filter fun c => !unwanted.contains c
  | [old, new] =>
    let old := setOf old
    let new := setOf new
    mapped fun text => text.map (transliterated old new)
  | _ => machine.failing 1 "tr: missing operand"

/-- Write a range of whole numbers, one in a line. -/
def sequence (machine : Machine) (arguments : List String) : Machine :=
  let numbers := match arguments.mapM String.toInt? with
    | some [last] => some (numbersFrom 1 1 last)
    | some [first, last] => some (numbersFrom first 1 last)
    | some [first, step, last] => some (numbersFrom first step last)
    | _ => none
  match numbers with
  | some numbers =>
    let lines := numbers.flatMap fun number => (toString number).toList ++ ['\n']
    (machine.withStatus 0).say "seq" (Text.Utf8.encode lines)
  | none => machine.failing 1 "seq: invalid floating point argument"

/-- Write the same line until nobody listens. -/
def repeatLine (machine : Machine) (arguments : List String) : Machine :=
  let text := if arguments.isEmpty then "y" else " ".intercalate arguments
  let line := Text.Utf8.encode (text.toList ++ ['\n'])
  if machine.descriptors.output = .pipe then
    let lines := List.replicate (endlessLength / line.length) line
    { machine.say "yes" lines.flatten with progress := .killed 13 }
  else { machine.say "yes" line with progress := .endless }

/-- Copy the input to the output and into files. -/
def duplicate (machine : Machine) (arguments : List String) : Machine :=
  let (machine, bytes) := machine.contents "tee" []
  let written := machine.say "tee" bytes
  arguments.foldl
    (fun machine path =>
      let tree := machine.host.tree
      let prepared := do
        let location ← tree.locate machine.host.here path
        pure (location, ← tree.prepare location false)
      match prepared with
      | .ok (location, tree) => (machine.withTree tree).appendTo location bytes
      | .error fault => machine.failing 1 ("tee: " ++ path ++ ": " ++ fault.message))
    written

end Machine

end LintClient.Shell
