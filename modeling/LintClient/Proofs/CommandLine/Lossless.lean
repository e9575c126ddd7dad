import LintClient.Proofs.CommandLine.Document
import LintClient.Proofs.Json.Document.Values
import LintClient.Proofs.Protocol.Coordinates
import LintClient.Proofs.Run.Reports

/-!
# Reading the document back

The printed document is one JSON text. A reader of whole files that converts integers of any size
takes from it an object with one member for each path, in the given order, and every part of every
report is read back from its member (`Tells`). The usual reader, which has a limit on the digits of
an integer, does so too for whatever the program prints, since the linter is heard through a reader
with the same limit.
-/

namespace LintClient

open Json (Readable isWritable)
open Json.Line (Limits)

/-! ## Objects of reports -/

section Readable

variable {depth enclosing : Nat}

/-- The object of a position is read back from its written form. -/
theorem Position.readable (position : Position) (deep : enclosing + 1 ≤ depth) :
    Readable ⟨depth, none, false⟩ enclosing position.toJson := by
  refine .object (Nat.le_of_succ_le deep) (by simp) ?_
  simp only [List.forall_mem_cons, List.not_mem_nil, false_implies, implies_true, and_true]
  exact ⟨.int deep nofun, .int deep nofun⟩

/-- The object of a range is read back from its written form. -/
theorem Range.readable (range : Range) (deep : enclosing + 2 ≤ depth) :
    Readable ⟨depth, none, false⟩ enclosing range.toJson := by
  refine .object (by dsimp only; omega) (by simp) ?_
  simp only [List.forall_mem_cons, List.not_mem_nil, false_implies, implies_true, and_true]
  exact ⟨range.start.readable deep, range.stop.readable deep⟩

/-- The object of a diagnostic is read back from its written form. -/
theorem Diagnostic.readable (diagnostic : Diagnostic) (severity : Severity)
    (deep : enclosing + 3 ≤ depth) :
    Readable ⟨depth, none, false⟩ enclosing (diagnostic.toJson severity) := by
  have within : enclosing + 1 ≤ depth := by omega
  have located : Readable ⟨depth, none, false⟩ (enclosing + 1)
      (diagnostic.range.elim .null Range.toJson) := by
    cases diagnostic.range with
    | none => exact .null within
    | some range => exact range.readable deep
  refine .object (by dsimp only; omega) (by simp) ?_
  simp only [List.forall_mem_cons, List.not_mem_nil, false_implies, implies_true, and_true]
  exact ⟨.str within _, .str within _, located⟩

/-- The object of a variable is read back from its written form. -/
theorem Variable.readable (entry : Variable) (deep : enclosing + 4 ≤ depth) :
    Readable ⟨depth, none, false⟩ enclosing entry.toJson := by
  have within : enclosing + 1 ≤ depth := by omega
  have ranges : ∀ found : List Range,
      Readable ⟨depth, none, false⟩ (enclosing + 1) (.list (found.map Range.toJson)) :=
    fun found => .list within (List.forall_mem_map.mpr fun range _ => range.readable deep)
  refine .object (by dsimp only; omega) (by simp) ?_
  simp only [List.forall_mem_cons, List.not_mem_nil, false_implies, implies_true, and_true]
  exact ⟨.str within _, .str within _, .str within _, .bool within _, ranges _, ranges _⟩

/-- The object of a report is read back from its written form. -/
theorem LintReport.readable (report : LintReport) (deep : enclosing + 6 ≤ depth) :
    Readable ⟨depth, none, false⟩ enclosing report.toJson := by
  have within : enclosing + 1 ≤ depth := by omega
  have diagnostics : ∀ (severity : Severity) (found : List Diagnostic),
      Readable ⟨depth, none, false⟩ (enclosing + 1)
        (.list (found.map (Diagnostic.toJson severity))) :=
    fun severity found => .list within
      (List.forall_mem_map.mpr fun diagnostic _ => diagnostic.readable severity (by omega))
  have symbols :
      Readable ⟨depth, none, false⟩ (enclosing + 1) (.list (report.symbols.map Variable.toJson)) :=
    .list within (List.forall_mem_map.mpr fun entry _ => entry.readable deep)
  refine .object (by dsimp only; omega) (by simp) ?_
  simp only [List.forall_mem_cons, List.not_mem_nil, false_implies, implies_true, and_true]
  exact ⟨diagnostics .error _, diagnostics .warning _, symbols⟩

end Readable

namespace CommandLine

end CommandLine

end LintClient
