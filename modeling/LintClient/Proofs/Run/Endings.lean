import LintClient.Proofs.Json.Texts
import LintClient.Proofs.Run.Exit

/-!
# Endings

How runs can end. A run with settings of the right kinds gives a report, fails in a way that it
tells about, or never ends, unless it is cancelled or its text has no form in which it could be
delivered (`ends_run`).
-/

namespace LintClient

open Config (Obstacle)
open Text (Source)

/-- The settings have values of the kinds that are expected of them. -/
structure Config.WellKinded (config : Config) : Prop where
  javaPath : config.javaPath = .null ∨ config.javaPath.IsText
  jarPath : config.jarPath.IsText
  linterArgs : config.linterArgs.AreTexts
  command : config.command.AreTexts
  timeout : ∃ seconds, config.timeout = .float seconds

/-! ## Commands -/

namespace Launch

variable {host : Host} {cause : Obstacle}

/-- What is in the way of a path is a file. -/
theorem look_obstructed {path : String} (failed : Config.look host path = .error cause) :
    ∃ error, cause = .file error := by
  obtain ⟨error, _, rfl⟩ := mapError_eq_error.mp failed
  exact ⟨error, rfl⟩

/-- What is in the way of a configured path that is a text is a file. -/
theorem lookAt_obstructed {path : Json} (isText : path.IsText)
    (failed : Config.lookAt host path = .error cause) : ∃ error, cause = .file error := by
  rcases Json.isText_iff.mp isText with ⟨path, rfl⟩ | ⟨path, rfl⟩
  · exact look_obstructed failed
  · cases failed

/-- What is in the way of the first file among paths is a file. -/
theorem firstFile_obstructed {paths : List String} (failed : firstFile host paths = .error cause) :
    ∃ error, cause = .file error := by
  induction paths with
  | nil => cases failed
  | cons path paths inductionHypothesis =>
      rcases bind_eq_error.mp failed with failed | ⟨node, _, failed⟩
      · exact look_obstructed failed
      · split at failed
        · cases failed
        · exact inductionHypothesis failed

/-- What is in the way of the Java of a host is a file. -/
theorem javaOfHost_obstructed (failed : javaOfHost host = .error cause) :
    ∃ error, cause = .file error := by
  rcases bind_eq_error.mp failed with failed | ⟨_, _, failed⟩
  · exact firstFile_obstructed failed
  · cases failed

/-- What is in the way of a configured Java is a file. -/
theorem javaAt_obstructed {path : Json} (isText : path.IsText)
    (failed : javaAt host path = .error cause) : ∃ error, cause = .file error := by
  rcases Json.isText_iff.mp isText with ⟨path, rfl⟩ | ⟨path, rfl⟩
  · rcases bind_eq_error.mp failed with failed | ⟨_, _, failed⟩
    · exact look_obstructed failed
    · cases failed
  · cases failed

/-- What is in the way of the Java of a well-kinded configuration is a file. -/
theorem java_obstructed {config : Config} (kinds : config.WellKinded)
    (failed : java host config.javaPath = .error cause) : ∃ error, cause = .file error := by
  rcases kinds.javaPath with isNull | isText
  · rw [isNull] at failed
    exact javaOfHost_obstructed failed
  · unfold java at failed
    split at failed
    · exact javaAt_obstructed isText failed
    · exact javaOfHost_obstructed failed

/-- What comes of building a command from settings of the right kinds. -/
inductive Built : Except CommandFault (List Json) → Prop where
  | command (name : Source) (arguments : List Source) :
      Built (.ok ((name :: arguments).map .ofSource))
  | noJava : Built (.error .noJava)
  | noJar (path : Json) : Built (.error (.noJar path))
  | obstructed (error : Host.FileError) : Built (.error (.obstacle (.file error)))

/-- From a well-kinded configuration the command of the jar is built, or a file is in the way. -/
theorem built_jarCommand {config : Config} (kinds : config.WellKinded) :
    Built (jarCommand host config) := by
  obtain ⟨path, isPath⟩ := kinds.jarPath
  obtain ⟨words, areWords⟩ := kinds.linterArgs
  have ofJava (java : String) : .str java :: .str "-jar" :: config.jarPath :: words.map .ofSource =
      (Source.ofString java :: .ofString "-jar" :: path :: words).map .ofSource := by
    simp [isPath]
  cases found : java host config.javaPath with
  | error cause =>
      obtain ⟨error, rfl⟩ := java_obstructed kinds found
      rw [jarCommand, found]
      exact .obstructed error
  | ok found? =>
      cases found? with
      | none =>
          rw [jarCommand, found]
          exact .noJava
      | some java =>
          cases looked : Config.lookAt host config.jarPath with
          | error cause =>
              obtain ⟨error, rfl⟩ := lookAt_obstructed ⟨path, isPath⟩ looked
              simp only [jarCommand, found, looked, mapError_ok, mapError_error, bind, Except.bind]
              exact .obstructed error
          | ok node =>
              simp only [jarCommand, found, areWords, looked, mapError_ok, bind, Except.bind,
                itemsOf, Json.elements, pure, Except.pure, ofJava]
              split
              · exact .noJar config.jarPath
              · exact .command (.ofString java) (.ofString "-jar" :: path :: words)

/-- A command of its own is taken word by word. -/
theorem built_command {config : Config} (kinds : config.WellKinded) :
    Built (command host config) := by
  obtain ⟨words, areWords⟩ := kinds.command
  rw [command, areWords]
  cases words with
  | nil =>
      rw [if_neg (by simp [Json.isPresent])]
      exact built_jarCommand kinds
  | cons name arguments =>
      rw [if_pos (by simp [Json.isPresent])]
      exact .command name arguments

end Launch

namespace Run

open Launch (Moment Child Launcher)

/-- Texts are words. -/
theorem wordsOf_map_ofSource (words : List Source) : wordsOf (words.map .ofSource) = .ok words := by
  have word (word : Source) : wordOf (.ofSource word) = .ok word := by
    unfold Json.ofSource
    split
    · next characters made =>
      rw [wordOf, Source.ofString, String.toList_ofList, Source.characters?_eq_some_iff.mp made]
    · rfl
  induction words with
  | nil => rfl
  | cons first words inductionHypothesis =>
      rw [wordsOf] at inductionHypothesis ⊢
      rw [List.map_cons, List.mapM_cons, inductionHypothesis, word]
      rfl

/-- A number of seconds sets a limit. -/
theorem limitOf_float (seconds : Binary64) : ∃ allowed, limitOf (.float seconds) = .ok allowed := by
  unfold limitOf
  split
  · exact ⟨_, rfl⟩
  · exact ⟨limitOfSeconds seconds, rfl⟩

/-! ## Runs -/

/-- How a run can end, given whether its settings are sound. -/
inductive Ends (conditions : Conditions) (source : Source) (sound : Prop) : Ending → Prop where
  | report (report : LintReport) : Ends conditions source sound (.report report)
  | failed (failure : LintError) : Ends conditions source sound (.failed failure)
  | undeliverable {run : Source.StrayRun} (unwritable : source.encode = .error run) :
      Ends conditions source sound (.undeliverable run)
  | obstructed (error : Host.FileError) : Ends conditions source sound (.obstructed (.file error))
  | misused (cause : Json.Misuse) (unsound : ¬ sound) :
      Ends conditions source sound (.obstructed (.misuse cause))
  | cancelled (requested : conditions.cancelled.isSome) : Ends conditions source sound .cancelled
  | endless : Ends conditions source sound .endless

variable (conditions : Conditions) (command : List String) (limit : Json) (source : Source)
  {sound : Prop}

/-- Along its timetable an exchange ends with a report or a failure, if it ends and is not
cancelled. -/
theorem ends_exchangeWith (moment : Option Moment) (child : Child) :
    Ends conditions source sound
      ((exchangeWith conditions limit moment child).ending command limit) := by
  rcases verdict_exchangeWith conditions command limit moment child with
    ⟨-, staged | ⟨cause, staged⟩⟩ | ⟨requested, staged⟩ | endless
  · rw [Exchange.ending, staged]
    exact .report _
  · rw [Exchange.ending, staged]
    exact .failed _
  · rw [Exchange.ending, staged]
    exact .cancelled requested
  · rw [endless]
    exact .endless

/-- How the run of a child can end. -/
theorem ends_runChild (limits : sound → ∃ allowed, limitOf limit = .ok allowed)
    (behave : List UInt8 → Child) : Ends conditions source sound
      (runChild conditions command limit source behave).ending := by
  simp only [runChild, limitOf_counting]
  cases limited : limitOf limit with
  | error cause =>
      refine .misused cause fun isSound => ?_
      obtain ⟨allowed, isAllowed⟩ := limits isSound
      cases limited.symm.trans isAllowed
  | ok allowed =>
      cases allowed with
      | expired => exact .failed _
      | unlimited =>
          cases written : source.encode with
          | error run => exact .undeliverable written
          | ok text => exact ends_exchangeWith conditions command _ source none _
      | after moment =>
          cases written : source.encode with
          | error run => exact .undeliverable written
          | ok text => exact ends_exchangeWith conditions command _ source (some moment) _

/-- How the run of a command can end. -/
theorem ends_runCommand (limits : sound → ∃ allowed, limitOf limit = .ok allowed)
    (launch : Launcher)
    (host : Host) (name : Source) (arguments : List Source) : Ends conditions source sound
      (runCommand launch host conditions limit source name arguments).ending := by
  unfold runCommand
  cases launch host name arguments with
  | error fault => exact .failed _
  | ok behave => exact ends_runChild conditions _ limit source limits behave

/-- How a run can end. Settings are sound if they are of the right kinds. -/
theorem ends_run (launch : Launcher) (host : Host) (config : Config) :
    Ends conditions source config.WellKinded (run launch host config conditions source).ending := by
  unfold run
  generalize
    (if config.command.isPresent then [] else Launch.javaNotes host config.javaPath) = notes
  have kinded :
      config.WellKinded → Launch.Built (Launch.command host config) := Launch.built_command
  cases built : Launch.command host config with
  | error fault =>
      rw [built] at kinded
      cases failed : fault.failure with
      | ok failure =>
          simp only [failed]
          exact .failed failure
      | error cause =>
          simp only [failed]
          cases cause with
          | file error => exact .obstructed error
          | misuse cause =>
              refine .misused cause fun kinds => ?_
              cases kinded kinds <;> cases failed
  | ok items =>
      rw [built] at kinded
      have words :
          config.WellKinded → ∃ name arguments, wordsOf items = .ok (name :: arguments) := by
        intro kinds
        cases kinded kinds with
        | command name arguments => exact ⟨name, arguments, wordsOf_map_ofSource _⟩
      have limits : config.WellKinded → ∃ allowed, limitOf config.timeout = .ok allowed := by
        intro kinds
        obtain ⟨seconds, isSeconds⟩ := kinds.timeout
        exact isSeconds ▸ limitOf_float seconds
      simp only
      split
      · exact ends_runCommand conditions config.timeout source limits launch host _ _
      · next none =>
        refine .misused _ fun kinds => ?_
        obtain ⟨name, arguments, some⟩ := words kinds
        cases none.symm.trans some
      · next cause failed =>
        refine .misused cause fun kinds => ?_
        obtain ⟨name, arguments, areWords⟩ := words kinds
        cases failed.symm.trans areWords

end Run

end LintClient
