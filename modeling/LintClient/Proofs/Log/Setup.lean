import LintClient.CommandLine.Program
import LintClient.Proofs.Log.Header

/-!
# Failing setups

Why logging cannot be set up. A setup at levels that exist fails only because of its directory: for
its path, for its files, or because the path is a template that cannot be filled. The one other
reason is a command with halves of surrogate pairs, which cannot be written into the header.
-/

namespace LintClient.Log

open Text (Source)

variable {α β : Type} {allowed : SetupFault → Prop}

/-- A setup fails only with faults that are allowed, on every session. -/
def FailsOnly (allowed : SetupFault → Prop) (setup : Setup α) : Prop :=
  ∀ session fault, (setup.run session).1 = .error fault → allowed fault

/-- What does nothing does not fail. -/
theorem failsOnly_pure (value : α) : FailsOnly allowed (pure value : Setup α) := nofun

/-- What fails with a fault that is allowed fails only with such faults. -/
theorem failsOnly_throw {fault : SetupFault} (isAllowed : allowed fault) :
    FailsOnly allowed (throw fault : Setup α) := by
  rintro session _ ⟨⟩
  exact isAllowed

/-- What goes on after a setup starts with the session that the setup leaves. -/
theorem run_bind (setup : Setup α) (next : α → Setup β) (session : Session) :
    (setup >>= next).run session = match setup.run session with
      | (.ok value, after) => (next value).run after
      | (.error fault, after) => (.error fault, after) := by
  rcases ran : setup.run session with ⟨outcome, after⟩
  change StateT.run setup.run session = _ at ran
  rw [ExceptT.run_bind]
  change StateT.run _ session = _
  rw [StateT.run_bind, ran]
  cases outcome <;> rfl

/-- Two setups in a row fail only with faults that are allowed if each of them does. -/
theorem FailsOnly.bind {setup : Setup α} {next : α → Setup β} (first : FailsOnly allowed setup)
    (later : ∀ value, FailsOnly allowed (next value)) : FailsOnly allowed (setup >>= next) := by
  intro session fault failed
  rw [run_bind] at failed
  rcases ran : setup.run session with ⟨outcome, after⟩
  rw [ran] at failed
  cases outcome with
  | ok value => exact later value after fault failed
  | error cause =>
      cases failed
      exact first session fault (congrArg Prod.fst ran)

/-- What fails only with some faults fails only with these and others. -/
theorem FailsOnly.mono {more : SetupFault → Prop} {setup : Setup α} (only : FailsOnly allowed setup)
    (weaker : ∀ fault, allowed fault → more fault) : FailsOnly more setup :=
  fun session fault failed => weaker fault (only session fault failed)

/-- To drop the result of a setup changes nothing about its faults. -/
theorem FailsOnly.discard {setup : Setup α} (only : FailsOnly allowed setup) :
    FailsOnly allowed (discard setup) :=
  only.bind fun _ => nofun

/-- What goes on unless there is a fault. -/
theorem FailsOnly.unless {condition : Prop} [Decidable condition] {fault : SetupFault}
    {next : PUnit → Setup β} (isAllowed : allowed fault)
    (later : ∀ value, FailsOnly allowed (next value)) :
    FailsOnly allowed (if condition then throw fault >>= next else next ⟨⟩) := by
  split
  · exact (failsOnly_throw isAllowed).bind later
  · exact later ⟨⟩

/-- Looking at the session does not fail. -/
theorem failsOnly_get : FailsOnly allowed (get : Setup Session) := nofun

/-- Changing the session does not fail. -/
theorem failsOnly_modify (change : Session → Session) : FailsOnly allowed (modify change) := nofun

/-- A fault of a directory. -/
inductive SetupFault.OfDirectory : SetupFault → Prop where
  | path : OfDirectory .path
  | template (fault : Template.Fault) : OfDirectory (.template fault)
  | file (error : Host.FileError) : OfDirectory (.file error)

open SetupFault (OfDirectory)

/-- Changing the files fails only because of the files. -/
theorem failsOnly_changeFiles
    (change : Host.FileTree → Host.Location → Except Host.FileError Host.FileTree) :
    FailsOnly OfDirectory (changeFiles change) := by
  refine failsOnly_get.bind fun session => ?_
  split
  · exact nofun
  · exact failsOnly_throw (.file _)

/-- A level that exists has a rank. -/
theorem failsOnly_rankAsked {level : Json} {rank : Nat} (known : rankOf level = .ok rank) :
    FailsOnly allowed (rankAsked level) := by
  rw [rankAsked, known]
  exact failsOnly_pure rank

/-- Listening on the error stream does not fail at a level that exists. -/
theorem failsOnly_listenOnConsole {level : Json} {rank : Nat} (known : rankOf level = .ok rank) :
    FailsOnly allowed (listenOnConsole level) :=
  (failsOnly_modify _).bind fun _ => (failsOnly_rankAsked known).bind fun _ => failsOnly_modify _

/-- A path is found unless it is a template that cannot be filled. -/
theorem failsOnly_filledPath (template : String) : FailsOnly OfDirectory (filledPath template) := by
  refine failsOnly_get.bind fun session => ?_
  split
  · exact failsOnly_pure _
  · exact failsOnly_throw (.template _)

/-- Listening in a file fails only because of its path or of the files, at a level that exists. -/
theorem failsOnly_listenInFile (template : String) {level : Json} {rank : Nat}
    (known : rankOf level = .ok rank) : FailsOnly OfDirectory (listenInFile template level) :=
  (failsOnly_filledPath template).bind fun _ => (failsOnly_changeFiles _).bind fun _ =>
    (failsOnly_changeFiles _).bind fun _ => (failsOnly_rankAsked known).bind fun _ =>
      failsOnly_modify _

/-- A fault of a directory, or of a command that cannot be written. -/
inductive SetupFault.OfSession (command : Json) : SetupFault → Prop where
  | directory {fault : SetupFault} (ofDirectory : fault.OfDirectory) : OfSession command fault
  | command (run : Source.StrayRun) (isStray : command.isStray = true) :
      OfSession command (.header (.unwritable run))

open SetupFault (OfSession)

/-- The header of a session says at least when it has started, and there is one unless the command
has halves of surrogate pairs. -/
theorem header_sessionMetadata (now : Stamp) (directory files : String) {command : Json}
    (isWritable : command.isWritable = true) {fault : HeaderFault}
    (failed : header (sessionMetadata now directory [("Files", .str files), ("Command", command)]) =
      .error fault) : command.isStray = true ∧ ∃ run, fault = .unwritable run := by
  let metadata := sessionMetadata now directory [("Files", .str files), ("Command", command)]
  have items : metadata = [("Start Time", .str (now.written "YYYY-MM-DD HH:mm:ss")),
      ("Log Directory", .str directory), ("Files", .str files), ("Command", command)] := by
    simp [metadata, sessionMetadata, Json.membersOf, Json.insertMember]
  have nonempty : metadata.present ≠ [] := by
    simp [items, Metadata.present, Json.isNull]
  have areWritable : metadata.present.all (·.2.isWritable) = true := by
    refine List.all_eq_true.mpr fun item there => ?_
    have among := (List.mem_filter.mp there).1
    rw [items] at among
    simp only [List.mem_cons, List.not_mem_nil, or_false] at among
    rcases among with rfl | rfl | rfl | rfl
    · rfl
    · rfl
    · rfl
    · exact isWritable
  rw [header_eq, if_neg nonempty, if_pos areWritable] at failed
  split at failed
  · next run found =>
    cases failed
    obtain ⟨item, there, isStray⟩ := exists_stray_of_strayRun? found
    have among : item ∈ metadata := (List.mem_filter.mp there).1
    rw [items] at among
    simp only [List.mem_cons, List.not_mem_nil, or_false] at among
    rcases among with rfl | rfl | rfl | rfl
    · cases isStray
    · cases isStray
    · cases isStray
    · exact ⟨isStray, run, rfl⟩
  · cases failed

/-- A header that is there can be written unless the files are in the way. -/
theorem failsOnly_writeHeader (path directory files : String) (now : Stamp) {command : Json}
    (isWritable : command.isWritable = true) : FailsOnly (OfSession command) (writeHeader path
      (sessionMetadata now directory [("Files", .str files), ("Command", command)])) := by
  refine ((failsOnly_changeFiles _).mono fun _ => .directory).bind fun _ => ?_
  split
  · exact (failsOnly_changeFiles _).mono fun _ => .directory
  · next fault failed =>
    obtain ⟨isStray, run, rfl⟩ := header_sessionMetadata now directory files isWritable failed
    exact failsOnly_throw (.command run isStray)

/-- With console levels that exist, and the facts about a call, to listen in a directory fails only
because of the directory or of the command. -/
theorem failsOnly_listenInDirectory (directory files : String) {command level : Json} {rank : Nat}
    (isWritable : command.isWritable = true) (known : rankOf level = .ok rank) :
    FailsOnly (OfSession command) (listenInDirectory directory { Plan.usual with
      consoleLevel := level, metadata := [("Files", .str files), ("Command", command)] }) := by
  have listened (template : String) {level : Json} {rank : Nat} (known : rankOf level = .ok rank) :
      FailsOnly (OfSession command) (listenInFile template level) :=
    (failsOnly_listenInFile template known).mono fun _ => .directory
  refine (failsOnly_listenOnConsole known).bind fun _ => .unless (.directory .path) fun _ => ?_
  refine ((failsOnly_changeFiles _).mono fun _ => .directory).bind fun _ =>
    failsOnly_get.bind fun _ => ?_
  exact (failsOnly_writeHeader _ _ files _ isWritable).bind fun _ => (listened _ rfl).bind fun _ =>
    (listened _ rfl).bind fun _ => (failsOnly_modify _).bind fun _ => failsOnly_pure _

end LintClient.Log
