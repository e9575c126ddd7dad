import LintClient.Text.Utf8
import Mathlib.Data.List.Basic

/-!
# Runs of the byte machine

The machine reads a byte string part by part: `run_append` is the law by which a stream may be cut
anywhere, even inside a character. The unfinished character is given up by the end of the text and
by a newline alike, and after both the machine stands between characters.
-/

namespace LintClient.Text.Utf8

/-- A fold that puts segments in front of others only adds to them. -/
private theorem foldl_reversed (pending : Pending) (bytes : List UInt8) (earlier : List Segment) :
    bytes.foldl
        (fun (state : Pending × List Segment) byte =>
          let (next, segments) := step state.1 byte
          (next, segments.reverse ++ state.2))
        (pending, earlier)
      = ((run pending bytes).1, (run pending bytes).2.reverse ++ earlier) := by
  induction bytes generalizing pending earlier with
  | nil => simp [run]
  | cons byte rest inductionHypothesis =>
      simp only [run, List.foldl_cons]
      rw [inductionHypothesis, inductionHypothesis _ ((step pending byte).2.reverse ++ [])]
      simp

/-- Without bytes, what is pending stays pending. -/
@[simp] theorem run_nil (pending : Pending) : run pending [] = (pending, []) := rfl

/-- A run steps through its first byte and runs on. -/
theorem run_cons (pending : Pending) (byte : UInt8) (rest : List UInt8) :
    run pending (byte :: rest) =
      ((run (step pending byte).1 rest).1,
        (step pending byte).2 ++ (run (step pending byte).1 rest).2) := by
  conv => lhs; unfold run
  rw [List.foldl_cons]
  simp only [foldl_reversed]
  simp

/-- A run over two parts is a run over the first and then one over the second. -/
theorem run_append (pending : Pending) (first second : List UInt8) :
    run pending (first ++ second) =
      ((run (run pending first).1 second).1,
        (run pending first).2 ++ (run (run pending first).1 second).2) := by
  induction first generalizing pending with
  | nil => simp
  | cons byte rest inductionHypothesis =>
      simp only [List.cons_append, run_cons, inductionHypothesis, List.append_assoc]

/-- A newline ends what is unfinished, as the end of the text does, and is read as itself. -/
theorem run_newline (pending : Pending) :
    (run pending [0x0A]).1 = .none ∧
      (run pending [0x0A]).2.map Segment.lossy
        = (finish pending).map Segment.lossy ++ ['\n'] := by
  have fresh : start 0x0A = (.none, [.char '\n']) := by decide
  have unfit : isTail 0x0A = false := by decide
  have unfitSecond : ∀ lead, isSecond lead 0x0A = false := by
    intro lead
    unfold isSecond
    split_ifs <;> decide
  cases pending with
  | none => simp [run_cons, step, fresh, finish, Segment.lossy]
  | one lead => simp [run_cons, step, unfitSecond, restart, fresh, finish, Segment.lossy]
  | two lead second => simp [run_cons, step, unfit, restart, fresh, finish, Segment.lossy]
  | three lead second third =>
      simp [run_cons, step, unfit, restart, fresh, finish, Segment.lossy]

/-- The text of a whole byte string with a newline behind it is its text with a newline behind
it. -/
theorem decodeLossy_newline (bytes : List UInt8) :
    decodeLossy (bytes ++ [0x0A]) = decodeLossy bytes ++ ['\n'] := by
  obtain ⟨ended, read⟩ := run_newline (run .none bytes).1
  simp only [decodeLossy, segments, run_append, ended, finish, List.append_nil, List.map_append,
    read, List.append_assoc]

end LintClient.Text.Utf8
