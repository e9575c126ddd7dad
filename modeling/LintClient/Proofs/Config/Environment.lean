import LintClient.Config.Sources
import LintClient.Proofs.Command.Words
import LintClient.Proofs.Launch.Command

/-!
# Commands in the environment

A command that is written into the environment word by word is the command that is launched
(`command_of_environment`). Of all other settings of the environment only a duration can keep it
from the launcher, by spelling no number.
-/

namespace LintClient.Config

/-- A duration of the environment is read as a number, or it spells none. -/
theorem duration_of_environment (host : Host) (name usual : String)
    (reads : (Binary64.ofText? usual).isSome) :
    (∃ number, durationOfText ((host.setting name).getD usual) = .ok (.float number)) ∨
      ∃ text, host.setting name = some text ∧ Binary64.ofText? text = none ∧
        durationOfText ((host.setting name).getD usual) = .error (.duration (.str text)) := by
  unfold durationOfText
  cases isSet : host.setting name with
  | none =>
      obtain ⟨number, isNumber⟩ := Option.isSome_iff_exists.mp reads
      rw [Option.getD_none, isNumber]
      exact .inl ⟨number, rfl⟩
  | some text =>
      rw [Option.getD_some]
      cases spelt : Binary64.ofText? text with
      | none => exact .inr ⟨text, rfl, spelt, rfl⟩
      | some number => exact .inl ⟨number, rfl⟩

/-- A command in the environment, every word of it quoted, is found and launched word by word,
whatever the words hold and whichever host launches them, unless a duration in the environment
spells no number. -/
theorem command_of_environment {host : Host} {words : List String} (given : words ≠ [])
    (isSet : host.setting "SQFLINT_COMMAND" = some (Command.joinWords words)) :
    (∃ config, ofEnvironment host = .ok config ∧ config.command = .list (words.map .str) ∧
      ∀ launcher, Launch.command launcher config = .ok (words.map .str)) ∨
    ∃ name text, (name = "SQFLINT_DEBOUNCE" ∨ name = "SQFLINT_TIMEOUT") ∧
      host.setting name = some text ∧ Binary64.ofText? text = none ∧
      ofEnvironment host = .error (.duration (.str text)) := by
  have isSplit : (Command.splitWords ((host.setting "SQFLINT_COMMAND").getD "")).mapError
      SourceFault.words = .ok words := by
    rw [isSet, Option.getD_some, Command.splitWords_joinWords]
    rfl
  rcases duration_of_environment host "SQFLINT_DEBOUNCE" "0.2" (by decide +kernel) with
    ⟨debounce, isDebounce⟩ | ⟨text, named, noNumber, refused⟩
  · rcases duration_of_environment host "SQFLINT_TIMEOUT" "30" (by decide +kernel) with
      ⟨timeout, isTimeout⟩ | ⟨text, named, noNumber, refused⟩
    · simp only [ofEnvironment, isSplit, isDebounce, isTimeout, bind, Except.bind]
      refine .inl ⟨_, rfl, rfl, fun launcher => Launch.command_of_words rfl ?_ launcher⟩
      simpa using given
    · simp only [ofEnvironment, isSplit, isDebounce, refused, bind, Except.bind]
      exact .inr ⟨"SQFLINT_TIMEOUT", text, .inr rfl, named, noNumber, rfl⟩
  · simp only [ofEnvironment, isSplit, refused, bind, Except.bind]
    exact .inr ⟨"SQFLINT_DEBOUNCE", text, .inl rfl, named, noNumber, rfl⟩

/-- Words that are hard to write: an empty one, one with quotes and a backslash, one with line
endings, one that looks like a comment, and one outside ASCII. -/
def oddWords : List String := ["", "it's \"\\\"", "\n\r\t ", "#x", "--ключ=😀"]

/-- They reach every launcher. -/
theorem command_of_environment_oddWords :
    ∃ config,
      ofEnvironment (Host.fresh [("SQFLINT_COMMAND", Command.joinWords oddWords)]) = .ok config ∧
      config.command = .list (oddWords.map .str) ∧
      ∀ launcher, Launch.command launcher config = .ok (oddWords.map .str) := by
  have isSet : (Host.fresh [("SQFLINT_COMMAND", Command.joinWords oddWords)]).setting
      "SQFLINT_COMMAND" = some (Command.joinWords oddWords) := rfl
  rcases command_of_environment (by decide) isSet with reaches | ⟨name, text, isDuration, named, -⟩
  · exact reaches
  · rcases isDuration with rfl | rfl <;> cases named

end LintClient.Config
