import LintClient.Proofs.Config.Validation
import LintClient.Proofs.Run.Endings
import LintClient.Proofs.Text.Pieces

/-!
# Validation and launching

What validation says about the jar, and what building the linter command comes to, are two checks of
the same files. They agree about the jar (`launch_follows_validation`): where nothing is complained
about, the jar is never the reason why there is no command. Java is looked up after validation, in
an order of priority that is said here without the lookup (`Finds`). The lookup follows it, except
that a path with a name that is too long, or through a directory that one may not go through, is no
path that leads nowhere: it stops the lookup. All of this is said for paths that are made of
characters, as the names of files are.
-/

namespace LintClient

/-! ## Paths that cannot be followed -/

namespace Host

/-- A path is too long, or a name in it is. -/
def Overlong (path : String) : Prop :=
  FileTree.pathLimit ≤ path.utf8ByteSize ∨
    ∃ name ∈ pathComponents path, FileTree.nameLimit < name.utf8ByteSize

/-- The way along components leads from a place to a directory that one may not go through, and goes
on there. -/
def FileTree.Bars (tree : FileTree) (location : Location) (components : List String) : Prop :=
  ∃ front name back place access, components = front ++ name :: back ∧ name ≠ "" ∧
    tree.walk location front = .ok place ∧ tree.node? place = some (.folder access) ∧
    access.execute = false

/-- On the way along a path there is a directory that one may not go through. -/
def Barred (host : Host) (path : String) : Prop :=
  host.tree.Bars (if isAbsolute path then [] else host.here) (pathComponents path)

/-- What stops the way along a path other than that something is not there. -/
inductive Stops (host : Host) (path : String) : FileFault → Prop where
  | overlong (long : Overlong path) : Stops host path .nameTooLong
  | barred (bars : Barred host path) : Stops host path .denied

/-- What stops the way along components other than that something is not there. -/
inductive FileTree.StopsAt (tree : FileTree) (location : Location) (components : List String) :
    FileFault → Prop where
  | overlong {name} (there : name ∈ components) (long : nameLimit < name.utf8ByteSize) :
      StopsAt tree location components .nameTooLong
  | barred (bars : tree.Bars location components) : StopsAt tree location components .denied

/-- What stops the way from the next place on stops the whole way. -/
theorem FileTree.StopsAt.earlier {tree : FileTree} {location next : Location} {component : String}
    {components : List String} {fault : FileFault}
    (goes : ∀ front, tree.walk location (component :: front) = tree.walk next front)
    (stops : tree.StopsAt next components fault) :
    tree.StopsAt location (component :: components) fault := by
  cases stops with
  | overlong there long => exact .overlong (List.mem_cons_of_mem _ there) long
  | barred bars =>
      obtain ⟨front, name, back, place, access, rfl, named, leads, isFolder, closed⟩ := bars
      exact .barred ⟨component :: front, name, back, place, access, rfl, named,
        (goes front).trans leads, isFolder, closed⟩

/-- On the way along a path something is missing, is no directory, may not be gone through or has
too long a name. -/
theorem walk_eq_error {tree : FileTree} {location : Location} {components : List String}
    {fault : FileFault} (failed : tree.walk location components = .error fault) :
    fault = .missing ∨ fault = .notFolder ∨ tree.StopsAt location components fault := by
  induction components generalizing location with
  | nil => cases failed
  | cons component components inductionHypothesis =>
      have later (next : Location)
          (goes : ∀ front, tree.walk location (component :: front) = tree.walk next front) :
          fault = .missing ∨ fault = .notFolder ∨
            tree.StopsAt location (component :: components) fault :=
        (inductionHypothesis ((goes components).symm.trans failed)).imp_right
          (.imp_right (.earlier goes))
      cases found : tree.node? location with
      | none =>
          rw [FileTree.walk, found] at failed
          exact .inl (Except.error.inj failed).symm
      | some node =>
          cases node with
          | folder access =>
              by_cases same : component = ""
              · exact later location fun front => by simp [FileTree.walk, found, same]
              by_cases enters : access.execute = false
              · simp only [FileTree.walk, found, same, enters] at failed
                obtain rfl := Except.error.inj failed
                exact .inr (.inr (.barred ⟨[], component, components, location, access, rfl, same,
                  rfl, found, enters⟩))
              by_cases here : component = "."
              · exact later location fun front => by simp [FileTree.walk, found, here, enters]
              by_cases above : component = ".."
              · exact later location.dropLast fun front => by
                  simp [FileTree.walk, found, above, enters]
              by_cases long : FileTree.nameLimit < component.utf8ByteSize
              · simp only [FileTree.walk, found, same, enters, here, above, long] at failed
                obtain rfl := Except.error.inj failed
                exact .inr (.inr (.overlong List.mem_cons_self long))
              · exact later (location ++ [component]) fun front => by
                  simp [FileTree.walk, found, same, enters, here, above, long]
          | file | tool | sink =>
              rw [FileTree.walk, found] at failed
              exact .inr (.inl (Except.error.inj failed).symm)

/-- A path names nothing because something is missing or is no directory, or something stops the
way. -/
theorem find_eq_error {host : Host} {path : String} {fault : FileFault}
    (failed : host.find path = .error fault) :
    fault = .missing ∨ fault = .notFolder ∨ Stops host path fault := by
  rcases bind_eq_error.mp failed with lost | ⟨location, -, nothing⟩
  · unfold FileTree.locate at lost
    split at lost
    · exact .inl (Except.error.inj lost).symm
    split at lost
    · next long =>
      obtain rfl := Except.error.inj lost
      exact .inr (.inr (.overlong (.inl long)))
    · refine (walk_eq_error lost).imp_right (.imp_right fun stops => ?_)
      cases stops with
      | overlong there long => exact .overlong (.inr ⟨_, there, long⟩)
      | barred bars => exact .barred bars
  · split at nothing
    · cases nothing
    · exact .inl (Except.error.inj nothing).symm

end Host

namespace Config

/-- A path is looked at, or something stops the way along it. -/
theorem look_cases (host : Host) (path : String) :
    look host path = .ok (host.find (Host.plainPath path)).toOption ∨
      ∃ fault, Host.Stops host (Host.plainPath path) fault ∧
        host.isRegularFile (Host.plainPath path) = false ∧
        look host path = .error (.file ⟨fault, Host.plainPath path⟩) := by
  unfold look Host.look Host.isRegularFile
  cases found : host.find (Host.plainPath path) with
  | ok node => exact .inl rfl
  | error fault =>
      rcases Host.find_eq_error found with rfl | rfl | stops
      · exact .inl rfl
      · exact .inl rfl
      · refine .inr ⟨fault, stops, rfl, ?_⟩
        cases stops <;> rfl

end Config

namespace Launch

open Config (Obstacle)
open Host (plainPath childPath)

/-! ## Java -/

/-- What is found when Java is looked up, in the order of priority: a configured path, which is
never replaced by another one, the files below the Java home of the environment, the programs of the
host. -/
inductive Finds (host : Host) (configured : Json) : Option String → Prop where
  | configured {path : String} (isPath : configured = .str path) (given : path ≠ "")
      (there : host.existsAt (plainPath path) = true ∨ (host.program? path).isSome) :
      Finds host configured (some path)
  | nowhere {path : String} (isPath : configured = .str path) (given : path ≠ "")
      (notThere : host.existsAt (plainPath path) = false) (noProgram : host.program? path = none) :
      Finds host configured none
  | home {home : String} (unsaid : configured = .null ∨ configured = .str "")
      (isHome : host.setting "JAVA_HOME" = some home) (given : home ≠ "")
      (isFile : host.isRegularFile (plainPath (childPath home ["bin", "java"])) = true) :
      Finds host configured (some (childPath home ["bin", "java"]))
  | homeExe {home : String} (unsaid : configured = .null ∨ configured = .str "")
      (isHome : host.setting "JAVA_HOME" = some home) (given : home ≠ "")
      (noFile : host.isRegularFile (plainPath (childPath home ["bin", "java"])) = false)
      (isFile : host.isRegularFile (plainPath (childPath home ["bin", "java.exe"])) = true) :
      Finds host configured (some (childPath home ["bin", "java.exe"]))
  | program (unsaid : configured = .null ∨ configured = .str "")
      (notAtHome : ∀ home, host.setting "JAVA_HOME" = some home → home ≠ "" →
        ∀ name ∈ ["java", "java.exe"],
          host.isRegularFile (plainPath (childPath home ["bin", name])) = false) :
      Finds host configured (host.program? "java")

/-- A path is looked at in the lookup of Java. -/
def Consulted (host : Host) (configured : Json) (path : String) : Prop :=
  configured = .str path ∧ path ≠ "" ∨
    (configured = .null ∨ configured = .str "") ∧
      ∃ home name, host.setting "JAVA_HOME" = some home ∧ home ≠ "" ∧
        name ∈ ["java", "java.exe"] ∧ path = childPath home ["bin", name]

/-- Only one thing is found. -/
theorem Finds.unique {host : Host} {configured : Json} {first second : Option String}
    (isFirst : Finds host configured first) (isSecond : Finds host configured second) :
    first = second := by
  -- Two different rules never have premises that hold together, and each rule determines what it
  -- finds.
  cases isFirst <;> cases isSecond <;> simp_all

/-- The lookup of Java comes to what is found, or it is stopped on the way along a path. -/
inductive LooksUp (host : Host) (configured : Json) : Except Obstacle (Option String) → Prop where
  | found {found : Option String} (finds : Finds host configured found) :
      LooksUp host configured (.ok found)
  | stopped {path : String} {fault : Host.FileFault} (consulted : Consulted host configured path)
      (stops : Host.Stops host (plainPath path) fault) :
      LooksUp host configured (.error (.file ⟨fault, plainPath path⟩))

variable {host : Host} {configured : Json}

/-- A configured path that is there or is found stands for itself. -/
theorem looksUp_javaAt {path : String} (given : path ≠ "") :
    LooksUp host (.str path) (javaAt host (.str path)) := by
  rw [javaAt]
  rcases Config.look_cases host path with looked | ⟨fault, stops, -, stopped⟩
  · simp only [looked, bind, Except.bind]
    split
    · next there => exact .found (.configured rfl given (Bool.or_eq_true_iff.mp there))
    · next notThere =>
      have isNowhere : host.existsAt (plainPath path) = false ∧ host.program? path = none := by
        simpa [Host.existsAt] using notThere
      exact .found (.nowhere rfl given isNowhere.1 isNowhere.2)
  · rw [stopped]
    exact .stopped (.inl ⟨rfl, given⟩) stops

/-- The first of some paths is a regular file, is none, or cannot be looked at. -/
theorem firstFile_cons (host : Host) (path : String) (paths : List String) :
    (host.isRegularFile (plainPath path) = true ∧
        firstFile host (path :: paths) = .ok (some path)) ∨
      (host.isRegularFile (plainPath path) = false ∧
        firstFile host (path :: paths) = firstFile host paths) ∨
      (∃ fault, Host.Stops host (plainPath path) fault ∧
        firstFile host (path :: paths) = .error (.file ⟨fault, plainPath path⟩)) := by
  rw [firstFile]
  rcases Config.look_cases host path with looked | ⟨fault, stops, -, stopped⟩
  · simp only [looked, bind, Except.bind]
    split
    · next isFile => exact .inl ⟨isFile, rfl⟩
    · next noFile => exact .inr (.inl ⟨eq_false_of_ne_true noFile, rfl⟩)
  · rw [stopped]
    exact .inr (.inr ⟨fault, stops, rfl⟩)

/-- Java is the first file below the Java home, if there is one. -/
theorem javaOfHost_of_file {path : String}
    (looked : firstFile host (candidates host) = .ok (some path)) :
    javaOfHost host = .ok (some path) := by
  rw [javaOfHost, looked]
  rfl

/-- Without a file below a Java home, Java is the program of that name. -/
theorem javaOfHost_of_noFile (looked : firstFile host (candidates host) = .ok none) :
    javaOfHost host = .ok (host.program? "java") := by
  rw [javaOfHost, looked]
  rfl

/-- What stops the lookup below the Java home stops the whole lookup. -/
theorem javaOfHost_of_error {cause : Obstacle}
    (stopped : firstFile host (candidates host) = .error cause) :
    javaOfHost host = .error cause := by
  rw [javaOfHost, stopped]
  rfl

/-- Without a Java home there are no files to look for. -/
theorem candidates_of_noHome (noHome : ∀ home, host.setting "JAVA_HOME" = some home → home = "") :
    candidates host = [] := by
  unfold candidates
  cases isHome : host.setting "JAVA_HOME" with
  | none => rfl
  | some home =>
      rw [noHome home isHome]
      rfl

/-- Below a Java home there are two files to look for, in this order. -/
theorem candidates_of_home {home : String} (isHome : host.setting "JAVA_HOME" = some home)
    (given : home ≠ "") :
    candidates host = [childPath home ["bin", "java"], childPath home ["bin", "java.exe"]] := by
  simp [candidates, isHome, given, homeCandidates]

/-- Without a configured path a Java home is looked through, and then the programs of the host. -/
theorem looksUp_javaOfHost (unsaid : configured = .null ∨ configured = .str "") :
    LooksUp host configured (javaOfHost host) := by
  by_cases noHome : ∀ home, host.setting "JAVA_HOME" = some home → home = ""
  · have nothing : firstFile host (candidates host) = .ok none := by
      rw [candidates_of_noHome noHome]
      rfl
    rw [javaOfHost_of_noFile nothing]
    exact .found (.program unsaid fun home isHome given => absurd (noHome home isHome) given)
  · simp only [not_forall] at noHome
    obtain ⟨home, isHome, given⟩ := noHome
    have consulted : ∀ name ∈ ["java", "java.exe"],
        Consulted host configured (childPath home ["bin", name]) :=
      fun name known => .inr ⟨unsaid, home, name, isHome, given, known, rfl⟩
    have two := candidates_of_home isHome given
    rcases firstFile_cons host (childPath home ["bin", "java"])
      [childPath home ["bin", "java.exe"]] with
      ⟨isFile, first⟩ | ⟨noFile, first⟩ | ⟨_, stops, first⟩
    · rw [javaOfHost_of_file (by rw [two, first])]
      exact .found (.home unsaid isHome given isFile)
    · rcases firstFile_cons host (childPath home ["bin", "java.exe"]) [] with
        ⟨isFile, second⟩ | ⟨noOther, second⟩ | ⟨_, stops, second⟩
      · rw [javaOfHost_of_file (by rw [two, first, second])]
        exact .found (.homeExe unsaid isHome given noFile isFile)
      · rw [javaOfHost_of_noFile (by rw [two, first, second]; rfl)]
        refine .found (.program unsaid fun other same _ => ?_)
        obtain rfl := Option.some.inj (isHome.symm.trans same)
        simp [noFile, noOther]
      · rw [javaOfHost_of_error (by rw [two, first, second])]
        exact .stopped (consulted "java.exe" (by simp)) stops
    · rw [javaOfHost_of_error (by rw [two, first])]
      exact .stopped (consulted "java" (by simp)) stops

/-- The lookup of Java follows the order of priority, or is stopped. -/
theorem looksUp_java (isPath : configured = .null ∨ ∃ path, configured = .str path) :
    LooksUp host configured (java host configured) := by
  rcases isPath with rfl | ⟨path, rfl⟩
  · have absent : ¬ Json.null.isPresent = true := Bool.false_ne_true
    rw [java, if_neg absent]
    exact looksUp_javaOfHost (.inl rfl)
  · by_cases given : path = ""
    · subst given
      have absent : ¬ (Json.str "").isPresent = true := by decide
      rw [java, if_neg absent]
      exact looksUp_javaOfHost (.inr rfl)
    · have present : (Json.str path).isPresent = true := by simp [Json.isPresent, given]
      rw [java, if_pos present]
      exact looksUp_javaAt given

/-! ## Commands -/

/-- A configured command is used as it is, whatever else is configured and whatever there is on the
host. -/
theorem command_of_words {config : Config} {words : List Json}
    (isCommand : config.command = .list words)
    (given : words ≠ []) (host : Host) : command host config = .ok words := by
  have present : config.command.isPresent = true := by simp [isCommand, Json.isPresent, given]
  rw [command, if_pos present, isCommand]
  rfl

/-- How the jar is looked at once Java is found. -/
theorem jarCommand_of_java {config : Config} {program path : String}
    (found : java host config.javaPath = .ok (some program)) (isPath : config.jarPath = .str path) :
    (host.isRegularFile (plainPath path) = true ∧ jarCommand host config =
        (itemsOf config.linterArgs).map (.str program :: .str "-jar" :: .str path :: ·)) ∨
      (host.isRegularFile (plainPath path) = false ∧
        jarCommand host config = .error (.noJar (.str path))) ∨
      ∃ fault, host.isRegularFile (plainPath path) = false ∧
        jarCommand host config = .error (.obstacle (.file ⟨fault, plainPath path⟩)) := by
  simp only [jarCommand, found, isPath, Config.lookAt, mapError_ok, bind, Except.bind]
  rcases Config.look_cases host path with looked | ⟨fault, -, noFile, stopped⟩
  · simp only [looked, mapError_ok]
    split
    · next noFile => exact .inr (.inl ⟨by simpa [Host.isRegularFile] using noFile, rfl⟩)
    · next isFile =>
      refine .inl ⟨by simpa [Host.isRegularFile] using isFile, ?_⟩
      cases itemsOf config.linterArgs <;> rfl
  · rw [stopped]
    exact .inr (.inr ⟨fault, noFile, rfl⟩)

/-- Without Java the jar cannot be launched. -/
theorem jarCommand_of_noJava {config : Config} (nowhere : java host config.javaPath = .ok none) :
    jarCommand host config = .error .noJava := by
  rw [jarCommand, nowhere]
  rfl

/-- What stops the lookup of Java stops building the command. -/
theorem jarCommand_of_stopped {config : Config} {cause : Obstacle}
    (stopped : java host config.javaPath = .error cause) :
    jarCommand host config = .error (.obstacle cause) := by
  rw [jarCommand, stopped]
  rfl

/-- Without a command of its own a configuration launches the jar. -/
theorem command_of_nothing {config : Config} (isCommand : config.command = .list []) :
    command host config = jarCommand host config := by
  have absent : ¬ config.command.isPresent = true := by simp [isCommand, Json.isPresent]
  rw [command, if_neg absent]

/-- A jar that is needed and not complained about is a regular file. -/
theorem isFile_of_noComplaint {config : Config} {path : String}
    (noComplaint : config.jarComplaints host = .ok []) (isCommand : config.command = .list [])
    (isPath : config.jarPath = .str path) : host.isRegularFile (plainPath path) = true := by
  have absent : ¬ config.command.isPresent = true := by simp [isCommand, Json.isPresent]
  rw [Config.jarComplaints, if_neg absent] at noComplaint
  split at noComplaint
  · cases noComplaint
  · simp only [isPath, Config.lookAt, bind, Except.bind] at noComplaint
    rcases Config.look_cases host path with looked | ⟨_, -, -, stopped⟩
    · rw [looked] at noComplaint
      have isFile := Config.complainIf_eq_nil_iff.mp (Except.ok.inj noComplaint)
      simpa [Host.isRegularFile] using isFile
    · rw [stopped] at noComplaint
      cases noComplaint

/-- The paths of Java and of the jar are made of characters. -/
structure HasPlainPaths (config : Config) : Prop where
  javaPath : config.javaPath.isStray = false
  jarPath : config.jarPath.isStray = false

section

variable {config : Config} (kinds : config.WellKinded) (plain : HasPlainPaths config)

include kinds plain

/-- The lookup of Java comes to exactly what the order of priority gives, or it is stopped. -/
theorem java_by_priority (host : Host) :
    (∃ found, java host config.javaPath = .ok found ∧
        ∀ other, Finds host config.javaPath other ↔ other = found) ∨
      ∃ path fault, Consulted host config.javaPath path ∧ Host.Stops host (plainPath path) fault ∧
        java host config.javaPath = .error (.file ⟨fault, plainPath path⟩) := by
  have looksUp : LooksUp host config.javaPath (java host config.javaPath) :=
    looksUp_java (kinds.javaPath.imp_right fun isText => isText.isString plain.javaPath)
  generalize java host config.javaPath = lookup at looksUp
  cases looksUp with
  | found finds =>
      exact .inl
        ⟨_, rfl, fun other => ⟨fun otherFinds => otherFinds.unique finds, fun same => same ▸ finds⟩⟩
  | stopped consulted stops => exact .inr ⟨_, _, consulted, stops, rfl⟩

/-- Where nothing is complained about, only Java can be missing, or its lookup is stopped. -/
theorem command_of_valid (valid : config.complaints host = .ok []) :
    (∃ words, command host config = .ok words) ∨
      (command host config = .error .noJava ∧ java host config.javaPath = .ok none) ∨
      ∃ path fault, Consulted host config.javaPath path ∧ Host.Stops host (plainPath path) fault ∧
        command host config = .error (.obstacle (.file ⟨fault, plainPath path⟩)) := by
  obtain ⟨own, isCommand⟩ := kinds.command
  obtain ⟨path, isPath⟩ := kinds.jarPath.isString plain.jarPath
  obtain ⟨words, areWords⟩ := kinds.linterArgs
  cases own with
  | cons word others =>
      exact .inl ⟨_, command_of_words isCommand (List.cons_ne_nil _ _) host⟩
  | nil =>
      have isFile :=
        isFile_of_noComplaint (Config.complaints_eq_nil_iff.mp valid).jar isCommand isPath
      rw [command_of_nothing isCommand]
      rcases java_by_priority kinds plain host with
        ⟨found, isFound, -⟩ | ⟨stopper, fault, consulted, stops, stopped⟩
      · cases found with
        | none => exact .inr (.inl ⟨jarCommand_of_noJava isFound, isFound⟩)
        | some program =>
            rcases jarCommand_of_java isFound isPath with ⟨-, built⟩ | ⟨noFile, -⟩ | ⟨_, noFile, -⟩
            · rw [areWords] at built
              exact .inl ⟨_, built⟩
            · cases isFile.symm.trans noFile
            · cases isFile.symm.trans noFile
      · exact .inr (.inr ⟨stopper, fault, consulted, stops, jarCommand_of_stopped stopped⟩)

/-- Without a command of its own a configuration launches the jar, which needs Java and the file. -/
theorem command_eq_ok_iff (isCommand : config.command = .list []) (result : List Json) :
    command host config = .ok result ↔
      ∃ program path args, java host config.javaPath = .ok (some program) ∧
        config.jarPath = .str path ∧ host.isRegularFile (plainPath path) = true ∧
        config.linterArgs = .list args ∧
          result = .str program :: .str "-jar" :: .str path :: args := by
  obtain ⟨path, isPath⟩ := kinds.jarPath.isString plain.jarPath
  obtain ⟨words, areWords⟩ := kinds.linterArgs
  rw [command_of_nothing isCommand]
  constructor
  · intro built
    rcases java_by_priority kinds plain host with ⟨found, isFound, -⟩ | ⟨_, _, -, -, stopped⟩
    · cases found with
      | none => cases (jarCommand_of_noJava isFound).symm.trans built
      | some program =>
          rcases jarCommand_of_java isFound isPath with ⟨isFile, same⟩ | ⟨-, same⟩ | ⟨_, -, same⟩
          · rw [areWords, built] at same
            exact ⟨program, path, _, isFound, isPath, isFile, areWords, Except.ok.inj same⟩
          · cases same.symm.trans built
          · cases same.symm.trans built
    · cases (jarCommand_of_stopped stopped).symm.trans built
  · rintro ⟨program, other, args, isFound, isOther, isFile, areArgs, rfl⟩
    rcases jarCommand_of_java isFound isOther with ⟨-, built⟩ | ⟨noFile, -⟩ | ⟨_, noFile, -⟩
    · rw [built, areArgs]
      rfl
    · cases isFile.symm.trans noFile
    · cases isFile.symm.trans noFile

end

/-- Validation and launching agree about the jar. For settings of the right kinds, with paths that
are made of characters, where nothing is complained about, there is a command, or Java is not found,
or the lookup of Java is stopped on the way along a path: by a name that is too long or a directory
that one may not go through. The jar is never the reason. Without a command of its own a
configuration has a command exactly if Java is found and the jar is a regular file, and then the
command launches the jar with the arguments. A command of its own is used as it is, whatever there
is on the host and whatever else is configured. The lookup of Java comes to exactly what the order
of priority gives, or it is stopped. -/
theorem launch_follows_validation (host : Host) {config : Config} (kinds : config.WellKinded)
    (plain : HasPlainPaths config) :
    (config.complaints host = .ok [] →
      (∃ words, command host config = .ok words) ∨
      (command host config = .error .noJava ∧ java host config.javaPath = .ok none) ∨
      (∃ path fault, Consulted host config.javaPath path ∧ Host.Stops host (plainPath path) fault ∧
        command host config = .error (.obstacle (.file ⟨fault, plainPath path⟩)))) ∧
    (config.command = .list [] → ∀ result, command host config = .ok result ↔
      ∃ program path args, java host config.javaPath = .ok (some program) ∧
        config.jarPath = .str path ∧ host.isRegularFile (plainPath path) = true ∧
        config.linterArgs = .list args ∧
          result = .str program :: .str "-jar" :: .str path :: args) ∧
    (∀ words, words ≠ [] → config.command = .list words →
      ∀ (other : Host) (otherwise : Config), otherwise.command = config.command →
        command other otherwise = .ok words) ∧
    ((∃ found, java host config.javaPath = .ok found ∧
        ∀ other, Finds host config.javaPath other ↔ other = found) ∨
      ∃ path fault, Consulted host config.javaPath path ∧ Host.Stops host (plainPath path) fault ∧
        java host config.javaPath = .error (.file ⟨fault, plainPath path⟩)) :=
  ⟨command_of_valid kinds plain, command_eq_ok_iff kinds plain,
    fun _ given isCommand other _ same => command_of_words (same.trans isCommand) given other,
    java_by_priority kinds plain host⟩

/-! ## A name that is too long -/

section LongName

variable {name : String} (oneName : '/' ∉ name.toList)
  (long : Host.FileTree.nameLimit < name.utf8ByteSize)

include long in
/-- A name that is too long is none that is not. -/
theorem ne_of_long {other : String} (short : other.utf8ByteSize ≤ Host.FileTree.nameLimit) :
    name ≠ other := by
  rintro rfl
  exact absurd long (Nat.not_lt.mpr short)

include oneName in
/-- A single name is its own only component. -/
theorem pathComponents_of_oneName : Host.pathComponents name = [name] := by
  rw [Host.pathComponents, Text.splitAt_of_notMem oneName, List.map_singleton, String.ofList_toList]

include oneName long in
/-- A single name is a path in its plain form. -/
theorem plainPath_of_oneName : plainPath name = name := by
  have notEmpty : name ≠ "" := ne_of_long long (by decide)
  have notHere : name ≠ "." := ne_of_long long (by decide)
  have noMark : Host.rootMark name = "" := by
    have nothing : name.toList.takeWhile (· == '/') = [] := by
      cases chars : name.toList with
      | nil => rfl
      | cons c rest =>
          have different : c ≠ '/' := fun same => oneName (by simp [chars, same])
          exact List.takeWhile_cons_of_neg (by simpa using different)
    rw [Host.rootMark, nothing]
  have components : Host.plainComponents name = [name] := by
    simp [Host.plainComponents, pathComponents_of_oneName oneName, notEmpty, notHere]
  rw [plainPath, Host.pathOfComponents, noMark, components]
  simp [notEmpty]

include oneName long in
/-- A single name that is too long names nothing. -/
theorem find_of_longName {host : Host}
    (isFolder : host.tree.node? host.here = some (.folder (.usual true)))
    (noNul : Host.holdsNul name = false) (short : name.utf8ByteSize < Host.FileTree.pathLimit) :
    host.find name = .error .nameTooLong := by
  have notEmpty : name ≠ "" := ne_of_long long (by decide)
  have notHere : name ≠ "." := ne_of_long long (by decide)
  have notAbove : name ≠ ".." := ne_of_long long (by decide)
  have relative : Host.isAbsolute name = false := by
    have first : name.toList.head? ≠ some '/' := fun same => oneName (List.mem_of_head? same)
    simpa [Host.isAbsolute] using first
  simp [Host.find, Host.FileTree.find, Host.FileTree.locate, Host.FileTree.walk, Host.Access.usual,
    pathComponents_of_oneName oneName, notEmpty, notHere, notAbove, noNul, relative, isFolder, long,
    Nat.not_le.mpr short, bind, Except.bind]

include oneName long in
/-- It stops the lookup of Java. -/
theorem java_of_longName {host : Host}
    (isFolder : host.tree.node? host.here = some (.folder (.usual true)))
    (noNul : Host.holdsNul name = false) (short : name.utf8ByteSize < Host.FileTree.pathLimit) :
    java host (.str name) = .error (.file ⟨.nameTooLong, name⟩) := by
  have notEmpty : name ≠ "" := ne_of_long long (by decide)
  have given : (Json.str name).isPresent = true := by simp [Json.isPresent, notEmpty]
  rw [java, if_pos given]
  simp only [bind, Except.bind, javaAt, Config.look, plainPath_of_oneName oneName long,
    Host.look, find_of_longName oneName long isFolder noNul short, mapError_error]

end LongName

/-- Settings with a path of Java and a jar. -/
def jarSettings (javaPath : String) : Config :=
  { Config.usual with javaPath := .str javaPath, jarPath := .str "a.jar" }

/-- A fresh host with the jar. -/
def hostWithJar : Host := (Host.fresh []).place "a.jar" (.file [] (.usual false))

/-- The settings are of the right kinds. -/
theorem wellKinded_jarSettings (javaPath : String) : (jarSettings javaPath).WellKinded :=
  ⟨.inr (Json.isText_str javaPath), Json.isText_str "a.jar", Json.areTexts_map_str ["-j", "-v"],
    ⟨[], rfl⟩, ⟨_, rfl⟩⟩

/-- The paths in the settings are made of characters. -/
theorem hasPlainPaths_jarSettings (javaPath : String) : HasPlainPaths (jarSettings javaPath) :=
  ⟨rfl, rfl⟩

/-- There is nothing to complain about in the settings, whatever the path of Java is. -/
theorem valid_jarSettings (javaPath : String) :
    (jarSettings javaPath).complaints hostWithJar = .ok [] := by
  have checked : ((jarSettings "").complaints hostWithJar).toOption.any List.isEmpty = true := by
    decide +kernel
  obtain ⟨complaints, isOk, nothing⟩ := exists_of_any_toOption checked
  rw [List.isEmpty_iff.mp nothing] at isOk
  exact isOk

/-- A shell that is found by its name launches the jar. -/
theorem launch_follows_validation_shell :
    (jarSettings "sh").WellKinded ∧ HasPlainPaths (jarSettings "sh") ∧
      (jarSettings "sh").complaints hostWithJar = .ok [] ∧
      command hostWithJar (jarSettings "sh") =
        .ok [.str "sh", .str "-jar", .str "a.jar", .str "-j", .str "-v"] := by
  have kinds := wellKinded_jarSettings "sh"
  have found : java hostWithJar (.str "sh") = .ok (some "sh") := by
    have checked : (java hostWithJar (.str "sh")).toOption.any (· == some "sh") = true := by
      decide +kernel
    obtain ⟨found, isOk, same⟩ := exists_of_any_toOption checked
    rw [eq_of_beq same] at isOk
    exact isOk
  have isFile : hostWithJar.isRegularFile (plainPath "a.jar") = true := by decide +kernel
  have plain := hasPlainPaths_jarSettings "sh"
  have launches := (launch_follows_validation hostWithJar kinds plain).2.1 rfl
  exact ⟨kinds, plain, valid_jarSettings "sh", (launches _).mpr
    ⟨"sh", "a.jar", _, found, rfl, isFile, rfl, rfl⟩⟩

/-- A name with one letter more than a name may have. -/
def longName : String := String.ofList (List.replicate 256 'x')

/-- The lookup of Java is stopped at the long name. -/
theorem stopped_longName :
    java hostWithJar (.str longName) = .error (.file ⟨.nameTooLong, longName⟩) := by
  have letters : longName.toList = List.replicate 256 'x' := String.toList_ofList
  have size : longName.utf8ByteSize = 256 := by decide +kernel
  have oneName : '/' ∉ longName.toList := by
    rw [letters]
    exact fun there => absurd (List.eq_of_mem_replicate there) (by decide)
  have noNul : Host.holdsNul longName = false := by
    rw [Host.holdsNul, letters]
    decide +kernel
  have isFolder :
      hostWithJar.tree.node? hostWithJar.here = some (.folder (.usual true)) := by decide +kernel
  exact java_of_longName oneName (by rw [size]; decide) isFolder noNul (by rw [size]; decide)

/-- So it is not so that only Java can be missing where nothing is complained about: at a name that
is too long the lookup does not come to nothing, it is stopped. -/
theorem not_every_valid_config_launches : ¬ ∀ (host : Host) (config : Config), config.WellKinded →
    config.complaints host = .ok [] →
      (∃ words, command host config = .ok words) ∨
        (command host config = .error .noJava ∧ java host config.javaPath = .ok none) := by
  intro always
  have fails : command hostWithJar (jarSettings longName) =
      .error (.obstacle (.file ⟨.nameTooLong, longName⟩)) :=
    (command_of_nothing rfl).trans (jarCommand_of_stopped stopped_longName)
  rcases always hostWithJar (jarSettings longName) (wellKinded_jarSettings longName)
    (valid_jarSettings longName) with ⟨words, built⟩ | ⟨noJava, -⟩
  · cases fails.symm.trans built
  · cases fails.symm.trans noJava

end Launch

end LintClient
