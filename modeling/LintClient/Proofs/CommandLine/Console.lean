import LintClient.Proofs.CommandLine.Status

/-!
# Logging on the error stream alone

As long as nobody listens in a file, what is logged does not reach the files of the host. So without
a directory for logs the linter finds at every path the host that the program was called on, as far
as its own children leave it alone (`Desk.OnConsole.lintPath_input`).
-/

namespace LintClient

namespace Log

variable (session : Session) (records : List LogRecord)

/-- A listener on the error stream writes nothing else. -/
theorem Session.tell_console {listener : Listener} (isConsole : listener.outlet = .console) :
    (session.tell records listener).host = session.host ∧
      (session.tell records listener).listeners = session.listeners := by
  rw [tell, isConsole]
  exact ⟨rfl, rfl⟩

/-- Listeners on the error stream write nothing else. -/
theorem Session.emit_console
    (areConsole : ∀ listener ∈ session.listeners, listener.outlet = .console) :
    (session.emit records).host = session.host ∧
      (session.emit records).listeners = session.listeners := by
  have told : ∀ (listeners : List Listener) (current : Session),
      (∀ listener ∈ listeners, listener.outlet = .console) →
        (listeners.foldl (tell records) current).host = current.host ∧
          (listeners.foldl (tell records) current).listeners = current.listeners := by
    intro listeners
    induction listeners with
    | nil => exact fun _ _ => ⟨rfl, rfl⟩
    | cons listener listeners inductionHypothesis =>
        intro current consoles
        obtain ⟨first, others⟩ := List.forall_mem_cons.mp consoles
        obtain ⟨sameHost, sameListeners⟩ := tell_console current records first
        obtain ⟨host, kept⟩ := inductionHypothesis (tell records current listener) others
        exact ⟨host.trans sameHost, kept.trans sameListeners⟩
  exact told session.listeners session areConsole

end Log

namespace CommandLine

/-- A desk on a host whose files no log reaches. -/
structure Desk.OnConsole (host : Host) (desk : Desk) : Prop where
  host : desk.session.host = host
  outlets : ∀ listener ∈ desk.session.listeners, listener.outlet = .console

namespace Desk.OnConsole

variable {host : Host} {desk : Desk}

/-- Logging leaves a desk with its console as it is. -/
theorem emit (onConsole : desk.OnConsole host) (records : List LogRecord) :
    (desk.emit records).OnConsole host := by
  obtain ⟨sameHost, sameListeners⟩ :=
    Log.Session.emit_console desk.session records onConsole.outlets
  constructor
  case host => exact sameHost.trans onConsole.host
  case outlets =>
    change ∀ listener ∈ (desk.session.emit records).listeners, _
    rw [sameListeners]
    exact onConsole.outlets

/-- Files that are left as they are change nothing. -/
theorem withFiles (onConsole : desk.OnConsole host) {files : Option Host.FileTree}
    (untouched : ∀ tree ∈ files, tree = host.tree) : (desk.withFiles files).OnConsole host := by
  cases files with
  | none => exact onConsole
  | some tree =>
      obtain rfl := untouched tree rfl
      obtain ⟨rfl, outlets⟩ := onConsole
      exact ⟨rfl, outlets⟩

/-- What standard input is linted to depends on its run alone, and nothing is left of it. -/
theorem lintPath_input (onConsole : desk.OnConsole host) {linter : Linter} (number : Nat)
    {report : LintReport}
    (reports : reportOf (linter number host (.ofInput desk.input)).ending = .ok report)
    (untouched : ∀ tree ∈ (linter number host (.ofInput desk.input)).files, tree = host.tree) :
    ∃ after, lintPath linter number desk "-" = (after, .ok report) ∧ after.OnConsole host ∧
      after.input = [] := by
  have read : Desk.OnConsole host { desk with input := [] } := ⟨onConsole.host, onConsole.outlets⟩
  simp only [lintPath, readSource, ↓reduceIte]
  have begun := read.emit [.about "SQFLint" .debug
    ("Linting " ++ "-" ++ " (" ++ toString (Text.Source.ofInput desk.input).length ++ " chars)")]
  rw [begun.host, reports]
  exact ⟨_, rfl, ((begun.withFiles untouched).emit _).emit _, by simp⟩

end Desk.OnConsole

/-- Without a directory for logs, logging is set up on the error stream. -/
theorem setUp_onConsole {arguments : Arguments} {config : Config} {desk : Desk}
    (accepted : settings desk.session.host arguments = .ok config)
    (noDirectory : said arguments.logDir = none) :
    ∃ ready, setUp arguments config desk = (ready, .ok ()) ∧ ready.OnConsole desk.session.host ∧
      ready.input = desk.input := by
  obtain ⟨name, level, named, isLevel⟩ := Config.level_of_valid (settings_eq_ok_iff.mp accepted).2
  have ranked : Log.rankOf (.str name) = .ok level.rank := by rw [Log.rankOf, isLevel]
  refine ⟨{ desk with session := { desk.session with listeners := [⟨.console, level.rank⟩] } }, ?_,
    ⟨rfl, ?_⟩, rfl⟩
  · simp only [setUp, named, noDirectory, Log.listenOnConsole, Log.rankAsked, ranked]
    rfl
  · intro listener there
    rw [List.mem_singleton.mp there]

end CommandLine

end LintClient
